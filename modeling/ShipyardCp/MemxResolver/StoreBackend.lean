import ShipyardCp.Lib.JsText
import ShipyardCp.Lib.Keyspace
import ShipyardCp.Store.RedisBackend

/-! The two store backends of the memx-resolver package: maps in memory, and one Redis key space whose
keys are composed of a family and an id. -/

namespace ShipyardCp.MemxResolver

open Lib Store InsertionMap Glob JsText

structure Document where
  docId : String
  docType : String
  title : String
  sourcePath : Option String := none
  version : String
  updatedAt : String
  summary : Option String := none
  tags : Option (List String) := none
  featureKeys : Option (List String) := none

inductive Importance where
  | required | recommended | reference
  deriving DecidableEq

structure DocumentChunk where
  chunkId : String
  docId : String
  headingPath : Option (List String) := none
  ordinal : Nat
  body : String
  tokenEstimate : Option Nat := none
  importance : Option Importance := none
  deriving DecidableEq

structure ReadReceipt where
  taskId : String
  docId : String
  version : String
  chunkIds : Option (List String) := none
  reader : Option String := none
  readAt : String

inductive StaleKind where
  | versionMismatch | documentMissing

structure StaleReason where
  taskId : String
  docId : String
  previousVersion : String
  currentVersion : String
  reason : StaleKind
  detectedAt : String

inductive ContractType where
  | api | schema | behavior | constraint | definition

structure Contract where
  contractId : String
  type : ContractType
  content : String
  acceptanceCriteria : Option (List String) := none
  forbiddenPatterns : Option (List String) := none
  definitionOfDone : Option (List String) := none
  dependencies : Option (List String) := none

/-- The operations of `StoreBackend`. -/
inductive Op where
  | getDocument (docId : String)
  | setDocument (doc : Document)
  | deleteDocument (docId : String)
  | findDocumentsByFeature (feature : String)
  | findDocumentsByTags (tags : List String)
  | searchDocuments (query : String) (limit : Int)
  | getChunk (chunkId : String)
  | getChunksByDocId (docId : String)
  | setChunks (docId : String) (chunks : List DocumentChunk)
  | deleteChunks (docId : String)
  | getReadReceipt (taskId docId : String)
  | getReadReceiptsByTask (taskId : String)
  | setReadReceipt (receipt : ReadReceipt)
  | addStaleReason (reason : StaleReason)
  | getStaleReasons (taskId : String)
  | getContract (contractId : String)
  | setContract (contract : Contract)
  | findContractsByFeature (feature : String)

inductive Answer where
  | done
  | deleted (any : Bool)
  | document (doc : Option Document)
  | documents (docs : List Document)
  | searched (docs : List Document)
  | chunk (chunk : Option DocumentChunk)
  | chunks (chunks : List DocumentChunk)
  | receipt (receipt : Option ReadReceipt)
  | receipts (receipts : List ReadReceipt)
  | reasons (reasons : List StaleReason)
  | contract (contract : Option Contract)
  | contracts (contracts : List Contract)

namespace Document

def hasFeature (feature : String) (doc : Document) : Bool := doc.featureKeys.any (·.contains feature)

def hasTag (tags : List String) (doc : Document) : Bool := doc.tags.any (·.any tags.contains)

def isFoundBy (lower : String → List Char) (query : String) (doc : Document) : Bool :=
  let lowerQuery := lower query
  includes (lower doc.title) lowerQuery ||
  doc.summary.any (fun summary => includes (lower summary) lowerQuery) ||
  doc.tags.any fun tags => tags.any fun tag => includes (lower tag) lowerQuery

end Document

def DocumentChunk.isUnder (lower : String → List Char) (heading : String) (chunk : DocumentChunk) :
    Bool :=
  chunk.headingPath.any (·.any fun h => includes (lower h) (lower heading))

def Contract.hasFeature (feature : String) (contract : Contract) : Bool :=
  includes contract.contractId.toList feature.toList

def receiptKey (taskId docId : String) : String := s!"{taskId}:{docId}"

/-- `InMemoryBackend`. -/
structure InMemoryBackend where
  documents : InsertionMap String Document
  chunks : InsertionMap String (List DocumentChunk)
  readReceipts : InsertionMap String ReadReceipt
  staleReasons : InsertionMap String (List StaleReason)
  contracts : InsertionMap String Contract

namespace InMemoryBackend

def empty : InMemoryBackend := ⟨.empty, .empty, .empty, .empty, .empty⟩

variable (m : InMemoryBackend)

def getChunk (chunkId : String) : Option DocumentChunk :=
  m.chunks.values.findSome? (·.find? (·.chunkId = chunkId))

def getReadReceiptsByTask (taskId : String) : List ReadReceipt :=
  m.readReceipts.values.filter (·.taskId = taskId)

def searchDocuments (lower : String → List Char) (query : String) (limit : Int) : List Document :=
  sliceTo limit (m.documents.values.filter (·.isFoundBy lower query))

/-- The answer of an operation and the maps after it; `lower` is `toLowerCase`. -/
def perform (lower : String → List Char) : Op → Answer × InMemoryBackend
  | .getDocument docId => (.document (m.documents.get? docId), m)
  | .setDocument doc => (.done, { m with documents := m.documents.set doc.docId doc })
  | .deleteDocument docId =>
    (.deleted (m.documents.has docId), { m with documents := m.documents.delete docId })
  | .findDocumentsByFeature feature =>
    (.documents (m.documents.values.filter (·.hasFeature feature)), m)
  | .findDocumentsByTags tags => (.documents (m.documents.values.filter (·.hasTag tags)), m)
  | .searchDocuments query limit => (.searched (m.searchDocuments lower query limit), m)
  | .getChunk chunkId => (.chunk (m.getChunk chunkId), m)
  | .getChunksByDocId docId => (.chunks ((m.chunks.get? docId).getD []), m)
  | .setChunks docId chunks => (.done, { m with chunks := m.chunks.set docId chunks })
  | .deleteChunks docId => (.done, { m with chunks := m.chunks.delete docId })
  | .getReadReceipt taskId docId => (.receipt (m.readReceipts.get? (receiptKey taskId docId)), m)
  | .getReadReceiptsByTask taskId => (.receipts (m.getReadReceiptsByTask taskId), m)
  | .setReadReceipt receipt =>
    (.done, { m with
      readReceipts := m.readReceipts.set (receiptKey receipt.taskId receipt.docId) receipt })
  | .addStaleReason reason =>
    (.done, { m with
      staleReasons := m.staleReasons.set reason.taskId
        ((m.staleReasons.get? reason.taskId).getD [] ++ [reason]) })
  | .getStaleReasons taskId => (.reasons ((m.staleReasons.get? taskId).getD []), m)
  | .getContract contractId => (.contract (m.contracts.get? contractId), m)
  | .setContract contract =>
    (.done, { m with contracts := m.contracts.set contract.contractId contract })
  | .findContractsByFeature feature =>
    (.contracts (m.contracts.values.filter (·.hasFeature feature)), m)

end InMemoryBackend

/-- What a key holds; the texts are kept as the values they stand for. Nothing writes a single chunk. -/
inductive Stored where
  | document (doc : Document)
  | chunk (chunk : DocumentChunk)
  | chunks (chunks : List DocumentChunk)
  | receipt (receipt : ReadReceipt)
  | reasons (reasons : List StaleReason)
  | contract (contract : Contract)

namespace Stored

def document? : Stored → Option Document
  | .document doc => some doc
  | _ => none

def chunk? : Stored → Option DocumentChunk
  | .chunk c => some c
  | _ => none

def chunks? : Stored → Option (List DocumentChunk)
  | .chunks cs => some cs
  | _ => none

def receipt? : Stored → Option ReadReceipt
  | .receipt r => some r
  | _ => none

def reasons? : Stored → Option (List StaleReason)
  | .reasons rs => some rs
  | _ => none

def contract? : Stored → Option Contract
  | .contract c => some c
  | _ => none

end Stored

inductive KeyFamily where
  | doc | chunk | chunks | read | stale | contract
  deriving DecidableEq

def KeyFamily.text : KeyFamily → String
  | .doc => "doc:"
  | .chunk => "chunk:"
  | .chunks => "chunks:"
  | .read => "read:"
  | .stale => "stale:"
  | .contract => "contract:"

def keyOf (family : KeyFamily) (id : String) : String := family.text ++ id

/-- The keys of `RedisBackend`. -/
structure RedisBackend where
  keys : InsertionMap String Stored

namespace RedisBackend

def empty : RedisBackend := ⟨.empty⟩

variable (r : RedisBackend)

def get (family : KeyFamily) (id : String) : Option Stored := r.keys.get? (keyOf family id)

def set (family : KeyFamily) (id : String) (value : Stored) : RedisBackend :=
  ⟨r.keys.set (keyOf family id) value⟩

def del (family : KeyFamily) (id : String) : RedisBackend := ⟨r.keys.delete (keyOf family id)⟩

def readAll {A : Type} (order : KeyOrder) (family : KeyFamily) (pattern : String)
    (value? : Stored → Option A) : List A :=
  (Keyspace.scan order r.keys (keyOf family pattern)).filterMap fun key =>
    (r.keys.get? key).bind value?

def getStaleReasons (taskId : String) : List StaleReason :=
  ((r.get .stale taskId).bind Stored.reasons?).getD []

def getReadReceiptsByTask (order : KeyOrder) (taskId : String) : List ReadReceipt :=
  r.readAll order .read s!"{taskId}:*" Stored.receipt?

def searchDocuments (lower : String → List Char) (order : KeyOrder) (query : String) (limit : Int) :
    List Document :=
  sliceTo limit ((r.readAll order .doc "*" Stored.document?).filter (·.isFoundBy lower query))

/-- The answer of an operation while the server answers keys in an order, and the keys after it. -/
def perform (lower : String → List Char) (order : KeyOrder) : Op → Answer × RedisBackend
  | .getDocument docId => (.document ((r.get .doc docId).bind Stored.document?), r)
  | .setDocument doc => (.done, r.set .doc doc.docId (.document doc))
  | .deleteDocument docId => (.deleted (r.get .doc docId).isSome, r.del .doc docId)
  | .findDocumentsByFeature feature =>
    (.documents ((r.readAll order .doc "*" Stored.document?).filter (·.hasFeature feature)), r)
  | .findDocumentsByTags tags =>
    (.documents ((r.readAll order .doc "*" Stored.document?).filter (·.hasTag tags)), r)
  | .searchDocuments query limit => (.searched (r.searchDocuments lower order query limit), r)
  | .getChunk chunkId => (.chunk ((r.get .chunk chunkId).bind Stored.chunk?), r)
  | .getChunksByDocId docId => (.chunks (((r.get .chunks docId).bind Stored.chunks?).getD []), r)
  | .setChunks docId chunks => (.done, r.set .chunks docId (.chunks chunks))
  | .deleteChunks docId => (.done, r.del .chunks docId)
  | .getReadReceipt taskId docId =>
    (.receipt ((r.get .read (receiptKey taskId docId)).bind Stored.receipt?), r)
  | .getReadReceiptsByTask taskId => (.receipts (r.getReadReceiptsByTask order taskId), r)
  | .setReadReceipt receipt =>
    (.done, r.set .read (receiptKey receipt.taskId receipt.docId) (.receipt receipt))
  | .addStaleReason reason =>
    (.done, r.set .stale reason.taskId (.reasons (r.getStaleReasons reason.taskId ++ [reason])))
  | .getStaleReasons taskId => (.reasons (r.getStaleReasons taskId), r)
  | .getContract contractId => (.contract ((r.get .contract contractId).bind Stored.contract?), r)
  | .setContract contract => (.done, r.set .contract contract.contractId (.contract contract))
  | .findContractsByFeature feature =>
    (.contracts ((r.readAll order .contract "*" Stored.contract?).filter (·.hasFeature feature)), r)

end RedisBackend

/-- A request for chunks: ids have priority over the filters of a document. -/
structure GetChunksRequest where
  docId : Option String := none
  chunkIds : Option (List String) := none
  query : Option String := none
  heading : Option String := none
  limit : Option Int := none

structure GetChunksResponse where
  docId : Option String := none
  chunks : List DocumentChunk
  notFound : Option (List String) := none

namespace ChunksService

variable (getChunk : String → Option DocumentChunk) (getChunksByDocId : String → List DocumentChunk)

def getByChunkIds (chunkIds : List String) : GetChunksResponse :=
  let notFound := chunkIds.filter fun chunkId => (getChunk chunkId).isNone
  { chunks := chunkIds.filterMap getChunk
    notFound := if notFound.isEmpty then none else some notFound }

def getByDocId (lower : String → List Char) (docId : String) (query heading : Option String)
    (limit : Int) : GetChunksResponse :=
  let byHeading := match heading with
    | none | some "" => getChunksByDocId docId
    | some heading => (getChunksByDocId docId).filter (·.isUnder lower heading)
  let byQuery := match query with
    | none | some "" => byHeading
    | some query => byHeading.filter fun chunk => includes (lower chunk.body) (lower query)
  { docId := some docId
    chunks := sliceTo limit (byQuery.mergeSort fun a b => a.ordinal ≤ b.ordinal) }

/-- `get` of chunks-service.ts over a backend's reads. -/
def get (lower : String → List Char) (request : GetChunksRequest) : GetChunksResponse :=
  match request.chunkIds with
  | some (chunkId :: chunkIds) => getByChunkIds getChunk (chunkId :: chunkIds)
  | _ => match request.docId with
    | none | some "" => { chunks := [] }
    | some docId =>
      getByDocId getChunksByDocId lower docId request.query request.heading (request.limit.getD 10)

end ChunksService

/-! What relates the two backends after the same operations: each key of Redis holds what the map of
its family holds under its id. -/

section keys

variable {family family' : KeyFamily} {id id' : String}

theorem keyOf_injective (h : keyOf family id = keyOf family' id') : family = family' ∧ id = id' := by
  have hchars : family.text.toList ++ id.toList = family'.text.toList ++ id'.toList := by
    simpa [keyOf] using congrArg String.toList h
  have hfamily : family = family' := by
    have hnested := List.prefix_or_prefix_of_prefix (List.prefix_append family.text.toList id.toList)
      (hchars ▸ List.prefix_append family'.text.toList id'.toList)
    revert hnested
    cases family <;> cases family' <;> decide
  subst hfamily
  exact ⟨rfl, String.toList_injective (List.append_cancel_left hchars)⟩

theorem keyOf_inj : keyOf family id = keyOf family' id' ↔ family = family' ∧ id = id' :=
  ⟨keyOf_injective, fun ⟨hfamily, hid⟩ => hfamily ▸ hid ▸ rfl⟩

theorem plain_text : ∀ b ∈ bytes family.text, Glob.Plain b := by
  cases family <;> decide +kernel

theorem family_of_matchesKey {pattern : String}
    (h : matchesKey (keyOf family pattern) (keyOf family' id) = true) : family = family' := by
  obtain ⟨rest, hbytes, -⟩ := (matchesKey_append plain_text pattern _).mp h
  rw [keyOf, bytes_append] at hbytes
  have hnested := List.prefix_or_prefix_of_prefix (List.prefix_append (bytes family.text) rest)
    (hbytes ▸ List.prefix_append (bytes family'.text) (bytes id))
  revert hnested
  cases family <;> cases family' <;> decide +kernel

theorem matchesKey_star : matchesKey (keyOf family "*") (keyOf family id) = true := by
  refine (matchesKey_append plain_text "*" _).mpr ⟨bytes id, ?_, ?_⟩
  · rw [keyOf, bytes_append]
  · exact matchTokens_many _

end keys

namespace RedisBackend

variable {r : RedisBackend} {family family' : KeyFamily} {id id' : String} {value : Stored}

theorem get_set : (r.set family id value).get family' id' =
    if family' = family ∧ id' = id then some value else r.get family' id' := by
  simp only [get, set, get?_set, keyOf_inj]

theorem get_del : (r.del family id).get family' id' =
    if family' = family ∧ id' = id then none else r.get family' id' := by
  simp only [get, del, get?_delete, keyOf_inj]

end RedisBackend

def InMemoryBackend.value? (m : InMemoryBackend) : KeyFamily → String → Option Stored
  | .doc, id => (m.documents.get? id).map .document
  | .chunk, _ => none
  | .chunks, id => (m.chunks.get? id).map .chunks
  | .read, id => (m.readReceipts.get? id).map .receipt
  | .stale, id => (m.staleReasons.get? id).map .reasons
  | .contract, id => (m.contracts.get? id).map .contract

structure Related (m : InMemoryBackend) (r : RedisBackend) : Prop where
  get : ∀ family id, r.get family id = m.value? family id
  known : ∀ key value, r.keys.get? key = some value → ∃ family id, key = keyOf family id
  documents : ∀ id doc, m.documents.get? id = some doc → doc.docId = id
  receipts : ∀ id receipt, m.readReceipts.get? id = some receipt →
    receiptKey receipt.taskId receipt.docId = id

section related

variable {m : InMemoryBackend} {r : RedisBackend}

theorem related_empty : Related .empty .empty where
  get family id := by cases family <;> rfl
  known := nofun
  documents := nofun
  receipts := nofun

theorem Related.set {m' : InMemoryBackend} {family : KeyFamily} {id : String} {value : Stored}
    (hrel : Related m r)
    (hvalue : ∀ family' id', m'.value? family' id' =
      if family' = family ∧ id' = id then some value else m.value? family' id')
    (hdocuments : ∀ id doc, m'.documents.get? id = some doc → doc.docId = id)
    (hreceipts : ∀ id receipt, m'.readReceipts.get? id = some receipt →
      receiptKey receipt.taskId receipt.docId = id) : Related m' (r.set family id value) where
  get family' id' := by rw [RedisBackend.get_set, hvalue, hrel.get]
  known key v hv := by
    rw [RedisBackend.set, get?_set] at hv
    split_ifs at hv with hkey
    · exact ⟨family, id, hkey⟩
    · exact hrel.known key v hv
  documents := hdocuments
  receipts := hreceipts

theorem Related.del {m' : InMemoryBackend} {family : KeyFamily} {id : String} (hrel : Related m r)
    (hvalue : ∀ family' id', m'.value? family' id' =
      if family' = family ∧ id' = id then none else m.value? family' id')
    (hdocuments : ∀ id doc, m'.documents.get? id = some doc → doc.docId = id)
    (hreceipts : m'.readReceipts = m.readReceipts) : Related m' (r.del family id) where
  get family' id' := by rw [RedisBackend.get_del, hvalue, hrel.get]
  known key v hv := by
    rw [RedisBackend.del, get?_delete] at hv
    split_ifs at hv
    exact hrel.known key v hv
  documents := hdocuments
  receipts := hreceipts ▸ hrel.receipts

theorem Related.getStaleReasons (hrel : Related m r) (taskId : String) :
    r.getStaleReasons taskId = (m.staleReasons.get? taskId).getD [] := by
  rw [RedisBackend.getStaleReasons, hrel.get]
  cases hreasons : m.staleReasons.get? taskId <;>
    simp [InMemoryBackend.value?, hreasons, Stored.reasons?]

theorem optionMap_ite {A B : Type} {c : Prop} [Decidable c] (f : A → B) (x y : Option A) :
    (if c then x else y).map f = if c then x.map f else y.map f :=
  apply_ite (Option.map f) c x y

variable (lower : String → List Char) (order : KeyOrder)

theorem Related.step (hrel : Related m r) (op : Op) :
    Related (m.perform lower op).2 (r.perform lower order op).2 := by
  cases op with
  | setDocument doc =>
    refine hrel.set (fun family' id' => ?_) (fun id d hd => ?_) hrel.receipts
    · cases family' <;>
        simp [InMemoryBackend.perform, InMemoryBackend.value?, get?_set, optionMap_ite]
    · simp only [InMemoryBackend.perform, get?_set] at hd
      split_ifs at hd with hid
      · rw [← Option.some.inj hd, hid]
      · exact hrel.documents id d hd
  | deleteDocument docId =>
    refine hrel.del (fun family' id' => ?_) (fun id d hd => ?_) rfl
    · cases family' <;>
        simp [InMemoryBackend.perform, InMemoryBackend.value?, get?_delete, optionMap_ite]
    · simp only [InMemoryBackend.perform, get?_delete] at hd
      split_ifs at hd
      exact hrel.documents id d hd
  | setChunks docId chunks =>
    refine hrel.set (fun family' id' => ?_) hrel.documents hrel.receipts
    cases family' <;>
      simp [InMemoryBackend.perform, InMemoryBackend.value?, get?_set, optionMap_ite]
  | deleteChunks docId =>
    refine hrel.del (fun family' id' => ?_) hrel.documents rfl
    cases family' <;>
      simp [InMemoryBackend.perform, InMemoryBackend.value?, get?_delete, optionMap_ite]
  | setReadReceipt receipt =>
    refine hrel.set (fun family' id' => ?_) hrel.documents (fun id x hx => ?_)
    · cases family' <;>
        simp [InMemoryBackend.perform, InMemoryBackend.value?, get?_set, optionMap_ite]
    · simp only [InMemoryBackend.perform, get?_set] at hx
      split_ifs at hx with hid
      · rw [← Option.some.inj hx, hid]
      · exact hrel.receipts id x hx
  | addStaleReason reason =>
    refine hrel.set (fun family' id' => ?_) hrel.documents hrel.receipts
    rw [hrel.getStaleReasons]
    cases family' <;>
      simp [InMemoryBackend.perform, InMemoryBackend.value?, get?_set, optionMap_ite]
  | setContract contract =>
    refine hrel.set (fun family' id' => ?_) hrel.documents hrel.receipts
    cases family' <;>
      simp [InMemoryBackend.perform, InMemoryBackend.value?, get?_set, optionMap_ite]
  | _ => exact hrel

theorem Related.mem_scan (hrel : Related m r) {family : KeyFamily} {pattern key : String} :
    key ∈ Keyspace.scan order r.keys (keyOf family pattern) ↔
      ∃ id value, keyOf family id = key ∧ m.value? family id = some value ∧
        matchesKey (keyOf family pattern) (keyOf family id) = true := by
  rw [Keyspace.mem_scan]
  constructor
  · rintro ⟨hmatch, value, hvalue⟩
    obtain ⟨family', id, rfl⟩ := hrel.known key value hvalue
    obtain rfl := family_of_matchesKey hmatch
    exact ⟨id, value, rfl, (hrel.get family id).symm.trans hvalue, hmatch⟩
  · rintro ⟨id, value, rfl, hvalue, hmatch⟩
    exact ⟨hmatch, value, (hrel.get family id).trans hvalue⟩

theorem Related.readAll_perm (hrel : Related m r) {A : Type} {family : KeyFamily} {pattern : String}
    {value? : Stored → Option A} {t : InsertionMap String A} {p : A → Bool}
    (hvalue : ∀ id, (m.value? family id).bind value? = t.get? id)
    (hkept : ∀ id value, m.value? family id = some value → (value? value).isSome = true)
    (hp : ∀ id a, t.get? id = some a → matchesKey (keyOf family pattern) (keyOf family id) = p a) :
    (r.readAll order family pattern value?).Perm (t.values.filter p) := by
  have hname : Function.Injective (keyOf family) := fun _ _ hkey => (keyOf_injective hkey).2
  refine Keyspace.filterMap_read_perm t hname (fun id => ?_) Keyspace.nodup_scan fun key => ?_
  · exact (congrArg (·.bind value?) (hrel.get family id)).trans (hvalue id)
  · rw [hrel.mem_scan]
    constructor
    · rintro ⟨id, value, hkey, hget, hmatch⟩
      obtain ⟨a, ha⟩ := Option.isSome_iff_exists.mp (hkept id value hget)
      have hta : t.get? id = some a := by rw [← hvalue, hget]; exact ha
      exact ⟨id, a, hkey, hta, (hp id a hta).symm.trans hmatch⟩
    · rintro ⟨id, a, hkey, hta, hpa⟩
      have hbind := (hvalue id).trans hta
      obtain ⟨value, hget, -⟩ := Option.bind_eq_some_iff.mp hbind
      exact ⟨id, value, hkey, hget, (hp id a hta).trans hpa⟩

theorem Related.readDocuments_perm (hrel : Related m r) :
    (r.readAll order .doc "*" Stored.document?).Perm m.documents.values := by
  have hperm : (r.readAll order .doc "*" Stored.document?).Perm
      (m.documents.values.filter fun _ => true) := by
    refine hrel.readAll_perm order (fun id => ?_) (fun id value hget => ?_)
      fun id a _ => matchesKey_star
    · cases h : m.documents.get? id <;> simp [InMemoryBackend.value?, h, Stored.document?]
    · obtain ⟨doc, -, rfl⟩ := Option.map_eq_some_iff.mp hget
      rfl
  simpa using hperm

theorem Related.readContracts_perm (hrel : Related m r) :
    (r.readAll order .contract "*" Stored.contract?).Perm m.contracts.values := by
  have hperm : (r.readAll order .contract "*" Stored.contract?).Perm
      (m.contracts.values.filter fun _ => true) := by
    refine hrel.readAll_perm order (fun id => ?_) (fun id value hget => ?_)
      fun id a _ => matchesKey_star
    · cases h : m.contracts.get? id <;> simp [InMemoryBackend.value?, h, Stored.contract?]
    · obtain ⟨contract, -, rfl⟩ := Option.map_eq_some_iff.mp hget
      rfl
  simpa using hperm

def listedFor (taskId : String) (receipt : ReadReceipt) : Bool :=
  matchesKey (keyOf .read s!"{taskId}:*") (keyOf .read (receiptKey receipt.taskId receipt.docId))

theorem Related.getReadReceiptsByTask_perm (hrel : Related m r) (taskId : String) :
    (r.getReadReceiptsByTask order taskId).Perm
      (m.readReceipts.values.filter (listedFor taskId)) := by
  refine hrel.readAll_perm order (fun id => ?_) (fun id value hget => ?_) fun id receipt hget => ?_
  · cases h : m.readReceipts.get? id <;> simp [InMemoryBackend.value?, h, Stored.receipt?]
  · obtain ⟨receipt, -, rfl⟩ := Option.map_eq_some_iff.mp hget
    rfl
  · rw [listedFor, hrel.receipts id receipt hget]

end related

end ShipyardCp.MemxResolver
