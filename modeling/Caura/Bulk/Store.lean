import Caura.Relation.Index

/-!
# The rows of one scope

The memories of one tenant and fleet, as the bulk write path reads and writes them.  Two
partial unique indexes of the database range over the live rows: one row per attempt key
(`ix_memories_attempt_unique`), whoever wrote it, and one row per agent and content hash
(`uq_memories_live_content_hash`).  `memoryAddAll` is one `INSERT … ON CONFLICT DO
NOTHING` on the first index: a taken attempt key skips its row, while a content hash
that is already live aborts the statement.
-/

namespace Caura.Bulk

open Caura.Relation List

/-! ## Hashes and attempt keys -/

/-- `_content_hash` within one tenant and fleet: a hexadecimal SHA-256 digest. -/
structure Hashing where
  contentHash : List Char → List Char
  length_contentHash : ∀ content, (contentHash content).length = 64

namespace Hashing

variable (hashing : Hashing)

/-- The first 16 digits of the content hash. -/
def shortHash (content : List Char) : List Char :=
  (hashing.contentHash content).take 16

/-- The attempt key of an item: `f"{bulk_attempt_id}:{hash[:16]}"`. -/
def itemRequestId (bulkAttemptId content : List Char) : List Char :=
  bulkAttemptId ++ ':' :: hashing.shortHash content

theorem length_shortHash (content : List Char) : (hashing.shortHash content).length = 16 := by
  rw [shortHash, length_take, hashing.length_contentHash]
  rfl

variable {hashing}

/-- An attempt key determines the short hash, whatever the attempt id is. -/
theorem shortHash_eq_of_itemRequestId_eq {first second firstContent secondContent : List Char}
    (sameKey : hashing.itemRequestId first firstContent =
      hashing.itemRequestId second secondContent) :
    hashing.shortHash firstContent = hashing.shortHash secondContent := by
  have sameLength : (':' :: hashing.shortHash firstContent).length =
      (':' :: hashing.shortHash secondContent).length := by
    rw [length_cons, length_cons, length_shortHash, length_shortHash]
  exact (List.cons.inj (append_inj' sameKey sameLength).2).2

end Hashing

/-! ## Rows -/

/-- A stored memory.  Its hash is that of its content, and its attempt key, if it has
one, ends in the short hash of its content. -/
structure Row (hashing : Hashing) where
  id : Nat
  agentId : String
  content : List Char
  contentHash : List Char
  clientRequestId : Option (List Char)
  deleted : Bool
  hashed : contentHash = hashing.contentHash content
  keyed : ∀ key ∈ clientRequestId, ∃ attempt, key = hashing.itemRequestId attempt content

/-- A row to be inserted. -/
structure Draft (hashing : Hashing) where
  agentId : String
  content : List Char
  contentHash : List Char
  clientRequestId : List Char
  hashed : contentHash = hashing.contentHash content
  keyed : ∃ attempt, clientRequestId = hashing.itemRequestId attempt content

variable {hashing : Hashing}

/-- The value in `ix_memories_attempt_unique`. -/
def Row.attemptKey (row : Row hashing) : Option (List Char) :=
  if row.deleted then none else row.clientRequestId

/-- The value in `uq_memories_live_content_hash`. -/
def Row.contentKey (row : Row hashing) : Option (String × List Char) :=
  if row.deleted then none else some (row.agentId, row.contentHash)

/-- The row after a soft delete. -/
def Row.softDelete (row : Row hashing) : Row hashing :=
  { row with deleted := true }

/-- The row that is stored for a draft. -/
def Draft.row (draft : Draft hashing) (id : Nat) : Row hashing where
  id
  agentId := draft.agentId
  content := draft.content
  contentHash := draft.contentHash
  clientRequestId := some draft.clientRequestId
  deleted := false
  hashed := draft.hashed
  keyed := by
    intro key isKey
    rw [← Option.mem_some_iff.mp isKey]
    exact draft.keyed

variable {row : Row hashing} {key contentHash : List Char}

theorem Row.attemptKey_eq_some_iff :
    row.attemptKey = some key ↔ row.deleted = false ∧ row.clientRequestId = some key := by
  unfold attemptKey
  cases row.deleted <;> simp

theorem Row.contentKey_eq_some_iff {agentId : String} :
    row.contentKey = some (agentId, contentHash) ↔
      row.deleted = false ∧ row.agentId = agentId ∧ row.contentHash = contentHash := by
  unfold contentKey
  cases row.deleted <;> simp

/-! ## The store -/

/-- The rows of the scope with the database's unique indexes.  New rows take the next
number as their id. -/
structure Store (hashing : Hashing) where
  memories : Table (Row hashing) Row.id
  nextId : Nat
  below : ∀ row ∈ memories, row.id < nextId
  attemptUnique : memories.Unique Row.attemptKey
  contentUnique : memories.Unique Row.contentKey

namespace Store

variable (store : Store hashing)

/-- No rows. -/
def empty : Store hashing where
  memories := Table.empty
  nextId := 0
  below := by
    intro row rowMem
    cases rowMem
  attemptUnique := Table.unique_empty _
  contentUnique := Table.unique_empty _

theorem nextId_not_mem : store.nextId ∉ store.memories.rows.map Row.id := by
  intro taken
  obtain ⟨row, rowMem, rowId⟩ := mem_map.mp taken
  exact Nat.lt_irrefl _ (rowId ▸ store.below row rowMem)

/-- Store a row whose values in both indexes are free. -/
def insert (draft : Draft hashing)
    (freeKey : store.memories.holder Row.attemptKey draft.clientRequestId = none)
    (freeContent : store.memories.holder Row.contentKey
      (draft.agentId, draft.contentHash) = none) : Store hashing where
  memories := store.memories.insert (draft.row store.nextId) store.nextId_not_mem
  nextId := store.nextId + 1
  below := by
    intro row rowMem
    rcases (Table.mem_insert_iff store.nextId_not_mem).mp rowMem with old | rfl
    · exact Nat.lt_succ_of_lt (store.below row old)
    · exact Nat.lt_succ_self _
  attemptUnique := by
    apply store.attemptUnique.insert
    intro key isKey
    cases isKey
    exact freeKey
  contentUnique := by
    apply store.contentUnique.insert
    intro key isKey
    cases isKey
    exact freeContent

/-- Soft-delete the row with the id. -/
def delete (id : Nat) : Store hashing where
  memories := store.memories.modify (fun row => row.id = id) Row.softDelete fun _ => rfl
  nextId := store.nextId
  below := by
    intro row rowMem
    obtain ⟨before, beforeMem, rfl⟩ := Table.mem_modify_iff.mp rowMem
    split <;> exact store.below before beforeMem
  attemptUnique := store.attemptUnique.modify fun _ => rfl
  contentUnique := store.contentUnique.modify fun _ => rfl

/-! ## Reads and inserts -/

/-- What `memory_bulk_find_by_content_hashes` reports for one hash. -/
structure Existing where
  id : Nat
  clientRequestId : Option (List Char)

/-- `memory_bulk_find_by_content_hashes`: the live row of the agent with the hash. -/
def bulkFindByContentHashes (agentId : String) (contentHash : List Char) : Option Existing :=
  (store.memories.holder Row.contentKey (agentId, contentHash)).map fun row =>
    { id := row.id, clientRequestId := row.clientRequestId }

/-- Errors of the insert. -/
inductive InsertError
  /-- `DuplicateContentHashError`: nothing of the batch was written. -/
  | duplicateContentHash
  deriving DecidableEq, Repr

/-- One row of the `INSERT`; a row whose attempt key is taken is skipped. -/
def insertRow (draft : Draft hashing) : Except InsertError (Store hashing × Option Nat) :=
  if freeKey : store.memories.holder Row.attemptKey draft.clientRequestId = none then
    if freeContent : store.memories.holder Row.contentKey
        (draft.agentId, draft.contentHash) = none then
      .ok (store.insert draft freeKey freeContent, some store.nextId)
    else
      .error .duplicateContentHash
  else
    .ok (store, none)

/-- The `INSERT` of a batch with its `RETURNING` rows. -/
def insertRows : Store hashing → List (Draft hashing) →
    Except InsertError (Store hashing × List (List Char × Nat))
  | store, [] => .ok (store, [])
  | store, draft :: drafts =>
    match store.insertRow draft with
    | .error error => .error error
    | .ok (next, inserted) =>
      match next.insertRows drafts with
      | .error error => .error error
      | .ok (final, returned) =>
        .ok (final, (inserted.map fun id => (draft.clientRequestId, id)).toList ++ returned)

/-- What storage reports for one item. -/
structure StorageResult where
  clientRequestId : List Char
  id : Option Nat
  wasInserted : Bool

/-- The report for an item: inserted, or the live row that has its attempt key. -/
def report (inserted : List (List Char × Nat)) (draft : Draft hashing) : StorageResult :=
  match inserted.lookup draft.clientRequestId with
  | some id =>
    { clientRequestId := draft.clientRequestId, id := some id, wasInserted := true }
  | none =>
    { clientRequestId := draft.clientRequestId
      id := (store.memories.holder Row.attemptKey draft.clientRequestId).map Row.id
      wasInserted := false }

/-- `memory_add_all`: insert the batch and report each item in input order. -/
def memoryAddAll (drafts : List (Draft hashing)) :
    Except InsertError (Store hashing × List StorageResult) :=
  match store.insertRows drafts with
  | .error error => .error error
  | .ok (after, inserted) => .ok (after, drafts.map (after.report inserted))

/-! ## What an insert leaves -/

variable {store} {draft : Draft hashing}

theorem mem_insert_iff
    {freeKey : store.memories.holder Row.attemptKey draft.clientRequestId = none}
    {freeContent : store.memories.holder Row.contentKey (draft.agentId, draft.contentHash) = none} :
    row ∈ (store.insert draft freeKey freeContent).memories ↔
      row ∈ store.memories ∨ row = draft.row store.nextId :=
  Table.mem_insert_iff store.nextId_not_mem

/-- What an `INSERT` of a batch has done: the rows before are kept, a row with a free
attempt key is stored and returned, and a row with a taken one is not returned. -/
structure Inserted (store : Store hashing) (drafts : List (Draft hashing))
    (after : Store hashing) (returned : List (List Char × Nat)) : Prop where
  kept : ∀ row ∈ store.memories, row ∈ after.memories
  returnedKeys : ∀ pair ∈ returned, ∃ draft ∈ drafts, draft.clientRequestId = pair.1
  stored : ∀ draft ∈ drafts,
    store.memories.holder Row.attemptKey draft.clientRequestId = none →
      ∃ id, returned.lookup draft.clientRequestId = some id ∧ draft.row id ∈ after.memories
  skipped : ∀ draft ∈ drafts,
    store.memories.holder Row.attemptKey draft.clientRequestId ≠ none →
      returned.lookup draft.clientRequestId = none

variable {drafts : List (Draft hashing)} {returned : List (List Char × Nat)}

theorem lookup_eq_none_of_keys
    (keys : ∀ pair ∈ returned, ∃ draft ∈ drafts, draft.clientRequestId = pair.1)
    (apart : ∀ draft ∈ drafts, key ≠ draft.clientRequestId) : returned.lookup key = none := by
  rw [lookup_eq_none_iff]
  intro pair pairMem
  obtain ⟨draft, draftMem, draftKey⟩ := keys pair pairMem
  rw [bne_iff_ne, ← draftKey]
  exact apart draft draftMem

/-- A batch whose contents are free in the store and whose keys differ is inserted. -/
theorem insertRows_inserted {store : Store hashing} (freeContents : ∀ draft ∈ drafts,
      store.memories.holder Row.contentKey (draft.agentId, draft.contentHash) = none)
    (contentsApart : drafts.Pairwise fun first second =>
      first.contentHash ≠ second.contentHash) (keysApart : drafts.Pairwise fun first second =>
      first.clientRequestId ≠ second.clientRequestId) :
    ∃ after returned, store.insertRows drafts = .ok (after, returned) ∧
      store.Inserted drafts after returned := by
  induction drafts generalizing store with
  | nil => exact ⟨store, [], rfl, fun _ rowMem => rowMem, by simp, by simp, by simp⟩
  | cons draft drafts ih =>
    rcases pairwise_cons.mp contentsApart with ⟨contentApart, restContents⟩
    rcases pairwise_cons.mp keysApart with ⟨keyApart, restKeys⟩
    have restFree := fun other otherMem =>
      freeContents other (mem_cons_of_mem draft otherMem)
    by_cases freeKey : store.memories.holder Row.attemptKey draft.clientRequestId = none
    · have freeContent := freeContents draft mem_cons_self
      -- The values of the later rows are not touched by the row just stored.
      have sameContent : ∀ other ∈ drafts,
          (store.insert draft freeKey freeContent).memories.holder Row.contentKey
            (other.agentId, other.contentHash) = none := by
        intro other otherMem
        refine (Table.holder_insert_of_ne store.nextId_not_mem ?_).trans (restFree other otherMem)
        intro same
        exact contentApart other otherMem (Row.contentKey_eq_some_iff.mp same).2.2
      have sameKey : ∀ other ∈ drafts,
          (store.insert draft freeKey freeContent).memories.holder Row.attemptKey
            other.clientRequestId = store.memories.holder Row.attemptKey other.clientRequestId := by
        intro other otherMem
        apply Table.holder_insert_of_ne store.nextId_not_mem
        intro same
        exact keyApart other otherMem (Option.some.inj (Row.attemptKey_eq_some_iff.mp same).2)
      obtain ⟨after, returned, inserts, rest⟩ := ih sameContent restContents restKeys
      have sameLookup : ∀ other ∈ drafts, List.lookup other.clientRequestId
          ((draft.clientRequestId, store.nextId) :: returned) =
            returned.lookup other.clientRequestId := by
        intro other otherMem
        rw [lookup_cons, beq_false_of_ne (keyApart other otherMem).symm]
      refine ⟨after, (draft.clientRequestId, store.nextId) :: returned, ?_, ?_, ?_, ?_, ?_⟩
      · rw [insertRows, insertRow, dif_pos freeKey, dif_pos freeContent]
        dsimp only
        rw [inserts]
        rfl
      · intro row rowMem
        exact rest.kept row (mem_insert_iff.mpr (.inl rowMem))
      · refine forall_mem_cons.mpr ⟨⟨draft, .head _, rfl⟩, fun pair later => ?_⟩
        exact (rest.returnedKeys pair later).imp fun _ => And.imp_left (.tail draft)
      · refine forall_mem_cons.mpr ⟨fun _ => ⟨store.nextId, lookup_cons_self,
          rest.kept _ (mem_insert_iff.mpr (.inr rfl))⟩, fun other later otherFree => ?_⟩
        rw [sameLookup other later]
        exact rest.stored other later ((sameKey other later).trans otherFree)
      · refine forall_mem_cons.mpr ⟨absurd freeKey, fun other later taken => ?_⟩
        rw [sameLookup other later]
        exact rest.skipped other later ((sameKey other later).symm ▸ taken)
    · obtain ⟨after, returned, inserts, rest⟩ := ih restFree restContents restKeys
      refine ⟨after, returned, ?_, rest.kept, ?_, ?_, ?_⟩
      · rw [insertRows, insertRow, dif_neg freeKey]
        dsimp only
        rw [inserts]
        rfl
      · intro pair pairMem
        exact (rest.returnedKeys pair pairMem).imp fun _ => And.imp_left (.tail draft)
      · exact forall_mem_cons.mpr ⟨fun free => absurd free freeKey, rest.stored⟩
      · exact forall_mem_cons.mpr
          ⟨fun _ => lookup_eq_none_of_keys rest.returnedKeys keyApart, rest.skipped⟩

theorem report_clientRequestId (store : Store hashing) (returned : List (List Char × Nat))
    (draft : Draft hashing) :
    (store.report returned draft).clientRequestId = draft.clientRequestId := by
  unfold report
  split <;> rfl

variable {after : Store hashing}

section

variable (inserted : store.Inserted drafts after returned) (draftMem : draft ∈ drafts)

include inserted draftMem

/-- What storage reports once the batch is inserted. -/
theorem Inserted.report_eq_of_free
    (free : store.memories.holder Row.attemptKey draft.clientRequestId = none) :
    ∃ id, draft.row id ∈ after.memories ∧ after.report returned draft =
      { clientRequestId := draft.clientRequestId, id := some id, wasInserted := true } := by
  obtain ⟨id, found, stored⟩ := inserted.stored draft draftMem free
  refine ⟨id, stored, ?_⟩
  rw [report, found]

/-- A taken attempt key is reported with the row that has it. -/
theorem Inserted.report_eq_of_taken
    (taken : store.memories.holder Row.attemptKey draft.clientRequestId = some row) :
    after.report returned draft =
      { clientRequestId := draft.clientRequestId, id := some row.id, wasInserted := false } := by
  obtain ⟨rowMem, rowKey⟩ := Table.mem_of_holder taken
  have skipped := inserted.skipped draft draftMem (by rw [taken]; exact Option.some_ne_none row)
  have held := after.attemptUnique.holder_eq (inserted.kept row rowMem) rowKey
  rw [report, skipped, held]
  rfl

end

end Store

end Caura.Bulk
