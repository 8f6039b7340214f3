import ShipyardCp.MemxResolver.StoreBackend

/-! Whether the two backends of the memx-resolver package give the same answers after the same
operations, whatever order the server lists its keys in. -/

namespace ShipyardCp.Properties

open Lib Store MemxResolver InMemoryBackend KeyOrder InsertionMap Keyspace

/-- The same answer, up to the order of lists that have no limit. -/
def SameReply : Answer → Answer → Prop
  | .documents a, .documents b => a.Perm b
  | .receipts a, .receipts b => a.Perm b
  | .contracts a, .contracts b => a.Perm b
  | a, b => a = b

def recordReceipt (receipts : List ReadReceipt) : Op → List ReadReceipt
  | .setReadReceipt receipt =>
    receipts.filter (fun r => ¬(r.taskId = receipt.taskId ∧ r.docId = receipt.docId)) ++ [receipt]
  | _ => receipts

def recordedReceipts (ops : List Op) : List ReadReceipt := ops.foldl recordReceipt []

def recordedFor (taskId : String) (ops : List Op) : List ReadReceipt :=
  (recordedReceipts ops).filter (·.taskId = taskId)

section

variable (lower : String → List Char)

def memoryAfter (ops : List Op) : InMemoryBackend :=
  ops.foldl (fun m op => (m.perform lower op).2) .empty

def redisAfter (steps : List (Op × KeyOrder)) : RedisBackend :=
  steps.foldl (fun r step => (r.perform lower step.2 step.1).2) .empty

def memoryFinds (m : InMemoryBackend) (chunkId : String) : List DocumentChunk :=
  (ChunksService.get m.getChunk (fun docId => (m.chunks.get? docId).getD []) lower
    { chunkIds := some [chunkId] }).chunks

def redisFinds (r : RedisBackend) (chunkId : String) : List DocumentChunk :=
  (ChunksService.get (fun id => (r.get .chunk id).bind Stored.chunk?)
    (fun docId => ((r.get .chunks docId).bind Stored.chunks?).getD []) lower
    { chunkIds := some [chunkId] }).chunks

/-- The answers agree at every step, the chunks that are stored are found by their ids, and the receipts
listed for a task are those recorded for it. -/
structure StepsAgree (steps : List (Op × KeyOrder)) : Prop where
  answers : ∀ before op order after, steps = before ++ (op, order) :: after →
    SameReply ((memoryAfter lower (before.map Prod.fst)).perform lower op).1
      ((redisAfter lower before).perform lower order op).1
  chunksFound : ∀ before after, steps = before ++ after → ∀ docId chunks,
    (memoryAfter lower (before.map Prod.fst)).chunks.get? docId = some chunks → ∀ c ∈ chunks,
      memoryFinds lower (memoryAfter lower (before.map Prod.fst)) c.chunkId = [c] ∧
        redisFinds lower (redisAfter lower before) c.chunkId = [c]
  receiptsExact : ∀ before taskId order after,
    steps = before ++ (.getReadReceiptsByTask taskId, order) :: after →
    ((memoryAfter lower (before.map Prod.fst)).getReadReceiptsByTask taskId).Perm
        (recordedFor taskId (before.map Prod.fst)) ∧
      ((redisAfter lower before).getReadReceiptsByTask order taskId).Perm
        (recordedFor taskId (before.map Prod.fst))

def BackendsAgree (ops : List Op) : Prop :=
  ∀ steps : List (Op × KeyOrder), steps.map Prod.fst = ops → StepsAgree lower steps

def limitedCount (limit : Int) (n : Nat) : Nat :=
  if 0 ≤ limit then min limit.toNat n else (n + limit).toNat

/-- No chunk is stored; a search finds no more than one document or answers none; and of the receipts
stored, the pattern of a task matches just those of the task, none of which was overwritten by a
receipt with the same key. -/
def Undisputed (before : List Op) : Op → Prop
  | .setChunks _ chunks => chunks = []
  | .searchDocuments query limit =>
    let found := (memoryAfter lower before).documents.values.filter (·.isFoundBy lower query)
    found.length ≤ 1 ∨ limitedCount limit found.length = 0
  | .getReadReceiptsByTask taskId =>
    let stored := (memoryAfter lower before).readReceipts
    (∀ r ∈ stored.values, listedFor taskId r = true ↔ r.taskId = taskId) ∧
      ∀ r ∈ recordedFor taskId before, stored.get? (receiptKey r.taskId r.docId) = some r
  | _ => True

end

section

variable {lower : String → List Char}

variable (lower) in
theorem related_after (steps : List (Op × KeyOrder)) :
    Related (memoryAfter lower (steps.map Prod.fst)) (redisAfter lower steps) := by
  induction steps using List.reverseRecOn with
  | nil => exact related_empty
  | append_singleton steps step ih =>
    simp only [memoryAfter, redisAfter, List.map_append, List.map_cons, List.map_nil,
      List.foldl_append, List.foldl_cons, List.foldl_nil]
    exact ih.step lower step.2 step.1

theorem sliceTo_length {α : Type} (limit : Int) (xs : List α) :
    (sliceTo limit xs).length = limitedCount limit xs.length := by
  unfold sliceTo limitedCount
  split_ifs
  · rw [List.length_take]
  · rw [List.length_take]
    omega

theorem readAll_reversed {A : Type} (r : RedisBackend) (family : KeyFamily) (pattern : String)
    (value? : Stored → Option A) :
    r.readAll .reversed family pattern value? = (r.readAll .stored family pattern value?).reverse := by
  simp only [RedisBackend.readAll, scan, reversed, stored, id, List.filterMap_reverse]

theorem head?_sliceTo {α : Type} {limit : Int} {xs : List α}
    (hsome : limitedCount limit xs.length ≠ 0) : (sliceTo limit xs).head? = xs.head? := by
  have htake : ∀ k, k ≠ 0 → (xs.take k).head? = xs.head? := by
    intro k hk
    rw [List.head?_take, if_neg hk]
  unfold limitedCount at hsome
  unfold sliceTo
  split_ifs with hlimit
  · rw [if_pos hlimit] at hsome
    exact htake _ (by omega)
  · rw [if_neg hlimit] at hsome
    exact htake _ hsome

theorem length_le_one_of_head?_reverse {α : Type} {xs : List α} (hnodup : xs.Nodup)
    (hends : xs.head? = xs.reverse.head?) : xs.length ≤ 1 := by
  cases xs with
  | nil => simp
  | cons x xs =>
    rw [List.head?_cons, List.head?_reverse] at hends
    by_contra hlong
    have hne : xs ≠ [] := by
      rintro rfl
      simp at hlong
    rw [List.getLast?_cons_of_ne_nil hne] at hends
    exact (List.nodup_cons.mp hnodup).1 (List.mem_of_getLast? hends.symm)

theorem eq_of_perm_of_length_le_one {α : Type} {xs ys : List α} (hperm : xs.Perm ys)
    (hshort : ys.length ≤ 1) : xs = ys := by
  match ys, hshort with
  | [], _ => exact hperm.eq_nil
  | [y], _ => exact List.perm_singleton.mp hperm

variable {m : InMemoryBackend}

variable {r : RedisBackend}

theorem searchDocuments_agree_iff (hrel : Related m r)
    {query : String} {limit : Int} {found : List Document}
    (hfound : found = m.documents.values.filter (·.isFoundBy lower query)) :
    (∀ order, m.searchDocuments lower query limit = r.searchDocuments lower order query limit) ↔
      found.length ≤ 1 ∨ limitedCount limit found.length = 0 := by
  have hperm : ∀ order, ((r.readAll order .doc "*" Stored.document?).filter
      (·.isFoundBy lower query)).Perm found := fun order => by
    rw [hfound]
    exact (hrel.readDocuments_perm order).filter _
  have hmemory : m.searchDocuments lower query limit = sliceTo limit found := by
    rw [hfound, searchDocuments]
  simp only [hmemory, RedisBackend.searchDocuments]
  constructor
  · intro hsame
    by_contra hmany
    obtain ⟨hlong, hsome⟩ := not_or.mp hmany
    have hstored := hperm .stored
    have hends := (hsame .stored).symm.trans (hsame .reversed)
    rw [readAll_reversed, List.filter_reverse] at hends
    have hheads := congrArg List.head? hends
    rw [head?_sliceTo (by rwa [hstored.length_eq]),
      head?_sliceTo (by rwa [List.length_reverse, hstored.length_eq])] at hheads
    have hnodup : found.Nodup := by
      rw [hfound]
      exact (nodup_values hrel.documents).filter _
    have hshort := length_le_one_of_head?_reverse (hstored.nodup_iff.mpr hnodup) hheads
    rw [hstored.length_eq] at hshort
    exact hlong hshort
  · rintro (hshort | hnone) order
    · rw [eq_of_perm_of_length_le_one (hperm order) hshort]
    · have hempty : ∀ xs : List Document, xs.length = found.length → sliceTo limit xs = [] :=
        fun xs hlength => List.eq_nil_of_length_eq_zero (by rw [sliceTo_length, hlength, hnone])
      rw [hempty _ rfl, hempty _ (hperm order).length_eq]

theorem redisFinds_eq_nil (hrel : Related m r)
    (chunkId : String) : redisFinds lower r chunkId = [] := by
  have hnone : r.get .chunk chunkId = none := hrel.get .chunk chunkId
  simp [redisFinds, ChunksService.get, ChunksService.getByChunkIds, hnone]

variable (lower) in
theorem recordedReceipts_spec (ops : List Op) : (recordedReceipts ops).Nodup ∧
      ∀ key receipt, (memoryAfter lower ops).readReceipts.get? key = some receipt →
        receipt ∈ recordedReceipts ops := by
  induction ops using List.reverseRecOn with
  | nil => exact ⟨List.nodup_nil, nofun⟩
  | append_singleton ops op ih =>
    have hrecorded : recordedReceipts (ops ++ [op]) = recordReceipt (recordedReceipts ops) op := by
      simp [recordedReceipts]
    have hmemory : memoryAfter lower (ops ++ [op]) = ((memoryAfter lower ops).perform lower op).2 := by
      simp [memoryAfter]
    have hkeys := (related_after lower (ops.map (·, stored))).receipts
    rw [List.map_map, show (Prod.fst ∘ fun x : Op => (x, stored)) = id from rfl, List.map_id] at hkeys
    rw [hrecorded, hmemory]
    cases op with
    | setReadReceipt receipt =>
      constructor
      · refine (ih.1.filter _).append (List.nodup_singleton _) ?_
        intro r hr hmem
        obtain rfl := List.mem_singleton.mp hmem
        simp at hr
      · intro key r hr
        simp only [perform, get?_set] at hr
        rw [recordReceipt, List.mem_append, List.mem_filter]
        split_ifs at hr with hkey
        · obtain rfl := Option.some.inj hr
          exact .inr (List.mem_singleton_self _)
        · refine .inl ⟨ih.2 key r hr, ?_⟩
          simp only [decide_eq_true_eq]
          rintro ⟨htask, hdoc⟩
          apply hkey
          rw [← hkeys key r hr, htask, hdoc]
    | _ => exact ih

theorem receipts_exact_iff {before : List Op}
    (hrel : Related (memoryAfter lower before) r) (taskId : String) (order : KeyOrder) :
    (((memoryAfter lower before).getReadReceiptsByTask taskId).Perm (recordedFor taskId before) ∧
        (r.getReadReceiptsByTask order taskId).Perm (recordedFor taskId before)) ↔
      Undisputed lower before (.getReadReceiptsByTask taskId) := by
  obtain ⟨hnodup, hstored⟩ := recordedReceipts_spec lower before
  have hredis := hrel.getReadReceiptsByTask_perm order taskId
  have hlisted : ((memoryAfter lower before).getReadReceiptsByTask taskId).Perm
        (r.getReadReceiptsByTask order taskId) ↔
      ∀ r ∈ (memoryAfter lower before).readReceipts.values,
        listedFor taskId r = true ↔ r.taskId = taskId := by
    rw [hredis.congr_right, getReadReceiptsByTask, filter_perm_filter_iff]
    refine forall₂_congr fun r _ => ?_
    rw [Bool.eq_iff_iff, decide_eq_true_eq]
    exact iff_comm
  have hkept : ((memoryAfter lower before).getReadReceiptsByTask taskId).Perm
        (recordedFor taskId before) ↔
      ∀ r ∈ recordedFor taskId before,
        (memoryAfter lower before).readReceipts.get? (receiptKey r.taskId r.docId) = some r := by
    rw [getReadReceiptsByTask, recordedFor,
      List.perm_ext_iff_of_nodup ((nodup_values hrel.receipts).filter _) (hnodup.filter _)]
    simp only [List.mem_filter, mem_values_iff, decide_eq_true_eq]
    constructor
    · intro hsame r hr
      obtain ⟨⟨key, hkey⟩, -⟩ := (hsame r).mpr hr
      rwa [hrel.receipts key r hkey]
    · intro hall r
      constructor
      · rintro ⟨⟨key, hkey⟩, htask⟩
        exact ⟨hstored key r hkey, htask⟩
      · intro hr
        exact ⟨⟨_, hall r hr⟩, hr.2⟩
  constructor
  · rintro ⟨hmemory, hr⟩
    exact ⟨hlisted.mp (hmemory.trans hr.symm), hkept.mp hmemory⟩
  · rintro ⟨hmatch, hall⟩
    have hmemory := hkept.mpr hall
    exact ⟨hmemory, (hlisted.mpr hmatch).symm.trans hmemory⟩

theorem chunks_eq_nil {ops : List Op}
    (hnone : ∀ docId chunks, .setChunks docId chunks ∈ ops → chunks = []) {docId : String}
    {chunks : List DocumentChunk}
    (hget : (memoryAfter lower ops).chunks.get? docId = some chunks) : chunks = [] := by
  induction ops using List.reverseRecOn generalizing docId chunks with
  | nil => cases hget
  | append_singleton ops op ih =>
    have hbefore : ∀ docId chunks, (memoryAfter lower ops).chunks.get? docId = some chunks →
        chunks = [] :=
      fun docId chunks => ih fun d cs hmem => hnone d cs (List.mem_append_left _ hmem)
    have hmemory : memoryAfter lower (ops ++ [op]) = ((memoryAfter lower ops).perform lower op).2 := by
      simp [memoryAfter]
    rw [hmemory] at hget
    cases op with
    | setChunks d cs =>
      simp only [perform, get?_set] at hget
      split_ifs at hget
      · rw [← Option.some.inj hget]
        exact hnone d cs (by simp)
      · exact hbefore docId chunks hget
    | deleteChunks d =>
      simp only [perform, get?_delete] at hget
      split_ifs at hget
      exact hbefore docId chunks hget
    | _ => exact hbefore docId chunks hget

theorem getChunk_eq_none
    (hnone : ∀ docId chunks, m.chunks.get? docId = some chunks → chunks = []) (chunkId : String) :
    m.getChunk chunkId = none := by
  rw [getChunk, List.findSome?_eq_none_iff]
  intro chunks hmem
  obtain ⟨docId, hget⟩ := m.chunks.mem_values_iff.mp hmem
  rw [hnone docId chunks hget]
  rfl

theorem sameReply_perform (hrel : Related m r)
    (hnone : ∀ docId chunks, m.chunks.get? docId = some chunks → chunks = []) (order : KeyOrder)
    {op : Op}
    (hsearch : ∀ query limit, op = .searchDocuments query limit →
      m.searchDocuments lower query limit = r.searchDocuments lower order query limit)
    (hreceipts : ∀ taskId, op = .getReadReceiptsByTask taskId →
      (m.getReadReceiptsByTask taskId).Perm (r.getReadReceiptsByTask order taskId)) :
    SameReply (m.perform lower op).1 (r.perform lower order op).1 := by
  cases op with
  | searchDocuments query limit => exact congrArg Answer.searched (hsearch query limit rfl)
  | getReadReceiptsByTask taskId => exact hreceipts taskId rfl
  | findDocumentsByFeature feature => exact ((hrel.readDocuments_perm order).filter _).symm
  | findDocumentsByTags tags => exact ((hrel.readDocuments_perm order).filter _).symm
  | findContractsByFeature feature => exact ((hrel.readContracts_perm order).filter _).symm
  | getDocument docId =>
    simp only [perform, RedisBackend.perform, hrel.get, value?]
    cases m.documents.get? docId <;> rfl
  | deleteDocument docId =>
    simp only [perform, RedisBackend.perform, hrel.get, value?, Option.isSome_map]
    rfl
  | getChunk chunkId =>
    simp only [perform, RedisBackend.perform, hrel.get, value?, getChunk_eq_none hnone]
    rfl
  | getChunksByDocId docId =>
    simp only [perform, RedisBackend.perform, hrel.get, value?]
    cases m.chunks.get? docId <;> rfl
  | getReadReceipt taskId docId =>
    simp only [perform, RedisBackend.perform, hrel.get, value?]
    cases m.readReceipts.get? (receiptKey taskId docId) <;> rfl
  | getStaleReasons taskId =>
    simp only [perform, RedisBackend.perform, hrel.getStaleReasons]
    rfl
  | getContract contractId =>
    simp only [perform, RedisBackend.perform, hrel.get, value?]
    cases m.contracts.get? contractId <;> rfl
  | _ => rfl

end

/-- The backends agree on operations, in whatever order the server lists its keys, exactly when no chunk
is stored, no search is cut or ordered by its limit, and the receipts of tasks that are read are told
apart by their keys. -/
theorem resolver_backends_agree_iff (lower : String → List Char) (ops : List Op) :
    BackendsAgree lower ops ↔
      ∀ before op after, ops = before ++ op :: after → Undisputed lower before op := by
  constructor
  · intro hagree before op after hops
    have hfst : ∀ xs : List Op, (xs.map (·, stored)).map Prod.fst = xs := fun xs => by
      rw [List.map_map]
      exact List.map_id xs
    have hsteps : ∀ order : KeyOrder, StepsAgree lower
        (before.map (·, stored) ++ (op, order) :: after.map (·, stored)) := by
      intro order
      refine hagree _ ?_
      rw [List.map_append, List.map_cons, hfst, hfst, hops]
    have hrel := related_after lower (before.map (·, stored))
    rw [hfst] at hrel
    cases op with
    | setChunks docId chunks =>
      cases chunks with
      | nil => rfl
      | cons c cs =>
        have hfound := (hsteps .stored).chunksFound
          (before.map (·, stored) ++ [(.setChunks docId (c :: cs), .stored)])
          (after.map (·, stored)) (by simp) docId (c :: cs)
          (by simp [memoryAfter, perform]) c List.mem_cons_self
        rw [redisFinds_eq_nil (related_after lower _)] at hfound
        cases hfound.2
    | searchDocuments query limit =>
      refine (searchDocuments_agree_iff hrel rfl).mp fun order => ?_
      have hsame := (hsteps order).answers _ _ order _ rfl
      rw [hfst] at hsame
      exact Answer.searched.inj hsame
    | getReadReceiptsByTask taskId =>
      have hexact := (hsteps .stored).receiptsExact _ taskId .stored _ rfl
      rw [hfst] at hexact
      exact (receipts_exact_iff hrel taskId .stored).mp hexact
    | _ => trivial
  · intro hall steps hsteps
    have hat : ∀ before op order after, steps = before ++ (op, order) :: after →
        Undisputed lower (before.map Prod.fst) op := by
      intro before op order after hsplit
      refine hall _ op (after.map Prod.fst) ?_
      rw [← hsteps, hsplit, List.map_append, List.map_cons]
    have hnone : ∀ before after, steps = before ++ after → ∀ docId chunks,
        (memoryAfter lower (before.map Prod.fst)).chunks.get? docId = some chunks → chunks = [] := by
      intro before after hsplit docId chunks hget
      refine chunks_eq_nil (fun d cs hmem => ?_) hget
      obtain ⟨⟨_, order⟩, hstep, rfl⟩ := List.mem_map.mp hmem
      obtain ⟨before', after', rfl⟩ := List.append_of_mem hstep
      exact hat before' (.setChunks d cs) order (after' ++ after) (by rw [hsplit]; simp)
    refine ⟨fun before op order after hsplit => ?_,
      fun before after hsplit docId chunks hget c hc => ?_, fun before taskId order after hsplit => ?_⟩
    · have hrel := related_after lower before
      have hundisputed := hat before op order after hsplit
      refine sameReply_perform hrel (hnone before _ hsplit) order ?_ ?_
      · rintro query limit rfl
        exact (searchDocuments_agree_iff hrel rfl).mpr hundisputed order
      · rintro taskId rfl
        obtain ⟨hmemory, hredis⟩ := (receipts_exact_iff hrel taskId order).mpr hundisputed
        exact hmemory.trans hredis.symm
    · rw [hnone before after hsplit docId chunks hget] at hc
      exact absurd hc List.not_mem_nil
    · exact (receipts_exact_iff (related_after lower before) taskId order).mpr
        (hat before _ order after hsplit)

def ingestedChunk : DocumentChunk :=
  { chunkId := "chunk:doc:spec:api:001", docId := "doc:spec:api", ordinal := 1, body := "text" }

/-- Redis never finds a chunk by its id. -/
theorem resolver_backends_disagree : ¬ BackendsAgree String.toList
    [.setChunks "doc:spec:api" [ingestedChunk], .getChunk "chunk:doc:spec:api:001"] := by
  intro hagree
  have hsame := (hagree [(.setChunks "doc:spec:api" [ingestedChunk], .stored),
    (.getChunk "chunk:doc:spec:api:001", .stored)] rfl).answers
      [(.setChunks "doc:spec:api" [ingestedChunk], .stored)] _ .stored [] rfl
  have hchunk := Answer.chunk.inj hsame
  revert hchunk
  decide +kernel

end ShipyardCp.Properties
