import Caura.Bulk.Store
import Caura.Governance.Scan
import Caura.Idempotency.Guard
import Caura.Value.Strip

/-!
# Bulk creation of memories

`create_memories_bulk` takes the items of a batch through their checks, the content
policy, the lookup of the contents the agent has already stored, and one insert.  An
item is answered at once when it fails a check or its content is a duplicate; the
others are pending, and what storage reports for their attempt keys answers them.  A
repeat of a content within the batch takes the id of the item that wrote it.

Everything that can end a call before its insert with an error for the whole request
(the reserved agent ids, an unavailable classifier, a failed embedding, a refused
settings version, a storage timeout) is one parameter of the call.
-/

namespace Caura.Bulk

open Caura.Governance Caura.Value
open Caura.Idempotency (HttpError)

/-! ## Items and their checks -/

/-- The parts of a `BulkMemoryItem` that its answer depends on.  The last two are the
outcomes of the checks on undeclared fields and on the sizes of the other fields. -/
structure BulkMemoryItem where
  content : List Char
  memoryType : Option String
  weight : Option ℚ
  status : Option String
  unknownFieldError : Option String
  fieldSizeError : Option String

/-- `CRYSTALLIZER_SHORT_CONTENT_CHARS`. -/
def crystallizerShortContentChars : Nat :=
  10

/-- `MAX_CONTENT_LENGTH`. -/
def maxContentLength : Nat :=
  10000

/-- `MEMORY_TYPES`. -/
def memoryTypes : List String :=
  ["fact", "episode", "decision", "preference", "task", "semantic", "intention", "plan",
   "commitment", "action", "outcome", "cancellation", "rule", "insight"]

/-- `MEMORY_STATUSES` in sorted order, with the held status for a broker. -/
def allowedStatuses (fromBroker : Bool) : List String :=
  ["active", "archived", "cancelled", "confirmed", "conflicted", "deleted", "outdated",
   "pending"] ++ if fromBroker then ["quarantined"] else []

/-- The policy of `_GovPII`: what happens to an item with findings. -/
inductive PiiAction
  | drop
  | mask
  | flag
  deriving DecidableEq, Repr

/-- `governance_pii`. -/
structure GovPii where
  enabled : Bool
  action : PiiAction
  enabledCategories : Option (List PiiCategory)

/-- A call of `create_memories_bulk` with what it meets: the characters `str.strip`
removes, the rules of the scan, the tenant's policy, the contents the business gate
refuses, and the error, if any, that ends the call before its insert. -/
structure BulkCall where
  agentId : String
  bulkAttemptId : List Char
  items : List BulkMemoryItem
  fromBroker : Bool
  isSpace : Char → Bool
  ruleSet : RuleSet
  governancePii : GovPii
  refusedAsPersonal : List Char → Bool
  raises : Option HttpError

namespace BulkCall

variable (call : BulkCall) (item : BulkMemoryItem)

/-- The check of the type. -/
def memoryTypeError : Option String :=
  item.memoryType.bind fun memoryType =>
    if memoryTypes.contains memoryType then none
    else some ("memory_type must be one of: " ++ ", ".intercalate memoryTypes)

/-- The check for short content. -/
def shortContentError : Option String :=
  if (strip call.isSpace item.content).length < crystallizerShortContentChars then
    some ("content too short (minimum " ++ toString crystallizerShortContentChars ++
      " characters)")
  else
    none

/-- The check for long content. -/
def oversizedContentError : Option String :=
  if (call.shortContentError item).isNone ∧ item.content.length > maxContentLength then
    some ("content exceeds maximum length of " ++ toString maxContentLength ++ " characters")
  else
    none

/-- The check of the weight. -/
def weightError : Option String :=
  item.weight.bind fun weight =>
    if 0 ≤ weight ∧ weight ≤ 1 then none
    else some "weight must be between 0.0 and 1.0"

/-- The check of the status. -/
def statusError : Option String :=
  item.status.bind fun status =>
    if (allowedStatuses call.fromBroker).contains status then none
    else some ("status must be one of: " ++ ", ".intercalate (allowedStatuses call.fromBroker))

/-- The messages of all the checks the item fails. -/
def itemErrors : List String :=
  [memoryTypeError item, call.shortContentError item, call.oversizedContentError item,
    weightError item, call.statusError item, item.unknownFieldError,
    item.fieldSizeError].reduceOption

/-! ## The content policy -/

/-- An item after its checks: the content that is hashed, and the error that excludes
the item from the write. -/
structure Prepared where
  content : List Char
  error : Option String
  deriving DecidableEq

/-- The scan drops, masks or flags a content with findings. -/
def screen (content : List Char) : Prepared :=
  if call.governancePii.enabled then
    let findings := scan call.ruleSet call.governancePii.enabledCategories content
    if findings.isEmpty then
      { content, error := none }
    else
      match call.governancePii.action with
      | .drop =>
        { content, error := some "rejected by content policy: sensitive data detected" }
      | .mask =>
        { content := mask content findings, error := none }
      | .flag =>
        { content, error := none }
  else
    { content, error := none }

/-- The business gate judges the content that would be stored. -/
def pregate (prepared : Prepared) : Prepared :=
  if prepared.error.isNone ∧ call.refusedAsPersonal prepared.content then
    { prepared with error := some "rejected by content policy: non-business content" }
  else
    prepared

/-- An item that fails no check is screened. -/
def prepare : Prepared :=
  match call.itemErrors item with
  | [] => call.pregate (call.screen item.content)
  | errors =>
    { content := item.content, error := some ("; ".intercalate errors) }

/-- The prepared items with their positions in the batch. -/
def entries : List (Prepared × Nat) :=
  (call.items.map call.prepare).zipIdx

end BulkCall

open BulkCall (Prepared)

/-! ## Answers -/

/-- What became of an item. -/
inductive Status
  | created
  | duplicateAttempt
  | duplicateContent
  | error
  deriving DecidableEq, Repr

/-- `BulkItemResult`. -/
structure BulkItemResult where
  index : Nat
  clientRequestId : List Char
  status : Status
  id : Option Nat := none
  duplicateOf : Option Nat := none
  error : Option String := none
  deriving DecidableEq, Repr

/-- `BulkMemoryResponse`. -/
structure BulkMemoryResponse where
  created : Nat
  duplicates : Nat
  errors : Nat
  results : List BulkItemResult
  deriving DecidableEq, Repr

section Classify

variable {hashing : Hashing} (store : Store hashing) (call : BulkCall)

/-- The attempt key of an entry. -/
def BulkCall.requestId (hashing : Hashing) (call : BulkCall) (prepared : Prepared) : List Char :=
  hashing.itemRequestId call.bulkAttemptId prepared.content

/-- The row of the calling agent that already has the content. -/
def existing (prepared : Prepared) : Option Store.Existing :=
  store.bulkFindByContentHashes call.agentId (hashing.contentHash prepared.content)

/-- One round of the loop that finds the item that writes each content. -/
def claimContent (firstWriter : List (List Char × Nat)) (entry : Prepared × Nat) :
    List (List Char × Nat) :=
  if entry.1.error.isSome ∨ (existing store call entry.1).isSome ∨
      (firstWriter.lookup (hashing.contentHash entry.1.content)).isSome then
    firstWriter
  else
    firstWriter ++ [(hashing.contentHash entry.1.content, entry.2)]

/-- For each content hash the position of the item that writes it. -/
def firstWriter : List (List Char × Nat) :=
  call.entries.foldl (claimContent store call) []

/-- The answer to an item that is not written; none if the item is pending. -/
def classify (entry : Prepared × Nat) : Option BulkItemResult :=
  let clientRequestId := call.requestId hashing entry.1
  match entry.1.error with
  | some error =>
    some { index := entry.2, clientRequestId, status := .error, error := some error }
  | none =>
    match existing store call entry.1 with
    | some found =>
      if found.clientRequestId = some clientRequestId then
        some { index := entry.2, clientRequestId, status := .duplicateAttempt,
               id := some found.id }
      else
        some { index := entry.2, clientRequestId, status := .duplicateContent,
               id := some found.id, duplicateOf := some found.id }
    | none =>
      if (firstWriter store call).lookup (hashing.contentHash entry.1.content) ≠
          some entry.2 then
        some { index := entry.2, clientRequestId, status := .duplicateContent }
      else
        none

/-- The items that are written. -/
def pending : List (Prepared × Nat) :=
  call.entries.filter fun entry => (classify store call entry).isNone

/-- The row sent to storage for an item. -/
def BulkCall.draft (hashing : Hashing) (call : BulkCall) (prepared : Prepared) :
    Draft hashing where
  agentId := call.agentId
  content := prepared.content
  contentHash := hashing.contentHash prepared.content
  clientRequestId := call.requestId hashing prepared
  hashed := rfl
  keyed := ⟨call.bulkAttemptId, rfl⟩

/-- The batch sent to storage. -/
def drafts : List (Draft hashing) :=
  (pending store call).map fun entry => call.draft hashing entry.1

/-! ## The response -/

/-- `by_request_id`: of several results for one key the last counts. -/
def byRequestId (storageResults : List Store.StorageResult) (clientRequestId : List Char) :
    Option Store.StorageResult :=
  storageResults.reverse.find? fun result => result.clientRequestId = clientRequestId

/-- The answer to a pending item from what storage reported. -/
def settle (hashing : Hashing) (call : BulkCall) (storageResults : List Store.StorageResult)
    (entry : Prepared × Nat) : BulkItemResult :=
  let clientRequestId := call.requestId hashing entry.1
  match (byRequestId storageResults clientRequestId).bind fun result =>
      result.id.map fun id => (id, result.wasInserted) with
  | none =>
    { index := entry.2, clientRequestId, status := .error
      error := some "storage did not return an id for this item" }
  | some (id, true) =>
    { index := entry.2, clientRequestId, status := .created, id := some id }
  | some (id, false) =>
    { index := entry.2, clientRequestId, status := .duplicateAttempt, id := some id }

/-- The answer to an item before the repeats within the batch have their ids. -/
def firstResult (storageResults : List Store.StorageResult) (entry : Prepared × Nat) :
    BulkItemResult :=
  (classify store call entry).getD (settle hashing call storageResults entry)

/-- An answer that still needs the id of the item that wrote the content. -/
def BulkItemResult.needsCanonical (result : BulkItemResult) : Bool :=
  result.status = .duplicateContent ∧ result.id = none

/-- The id of the item that wrote the entry's content.  The items that write are never
changed by the loop that asks, so it reads the answers as they were before it. -/
def canonicalId (storageResults : List Store.StorageResult) (entry : Prepared × Nat) :
    Option Nat :=
  (((firstWriter store call).lookup (hashing.contentHash entry.1.content)).bind fun index =>
    (call.entries.map (firstResult store call storageResults))[index]?).bind fun canonical =>
      canonical.id

/-- The answer with the canonical id filled in, or downgraded to an error. -/
def backfill (storageResults : List Store.StorageResult) (entry : Prepared × Nat) :
    BulkItemResult :=
  let later := firstResult store call storageResults entry
  if later.needsCanonical then
    match canonicalId store call storageResults entry with
    | none =>
      { index := later.index, clientRequestId := later.clientRequestId, status := .error
        error := some "canonical row for intra-batch duplicate did not persist" }
    | some id =>
      { index := later.index, clientRequestId := later.clientRequestId
        status := .duplicateContent, id := some id, duplicateOf := some id }
  else
    later

/-- Whether the answer to the entry is downgraded. -/
def isDowngraded (storageResults : List Store.StorageResult) (entry : Prepared × Nat) : Bool :=
  (firstResult store call storageResults entry).needsCanonical ∧
    canonicalId store call storageResults entry = none

/-- The response: the counters run along with the loops that answer the items. -/
def respond (storageResults : List Store.StorageResult) : BulkMemoryResponse :=
  let classified := call.entries.filterMap (classify store call)
  let settled := (pending store call).map (settle hashing call storageResults)
  let downgraded := call.entries.countP (isDowngraded store call storageResults)
  { created := settled.countP fun result => result.status = .created
    duplicates := classified.countP (fun result => result.status ≠ .error) +
      settled.countP (fun result => result.status = .duplicateAttempt) - downgraded
    errors := classified.countP (fun result => result.status = .error) +
      settled.countP (fun result => result.status = .error) + downgraded
    results := call.entries.map (backfill store call storageResults) }

/-- The error of a batch that the content index refused. -/
def duplicateMemory : HttpError :=
  ⟨409, "bulk insert rejected: an item's content already exists for this agent; " ++
    "nothing in this batch was written"⟩

/-- `create_memories_bulk`: the store it leaves and its answer. -/
def createMemoriesBulk : Store hashing × Except HttpError BulkMemoryResponse :=
  match call.raises with
  | some error => (store, .error error)
  | none =>
    match store.memoryAddAll (drafts store call) with
    | .error .duplicateContentHash => (store, .error duplicateMemory)
    | .ok (after, storageResults) => (after, .ok (respond store call storageResults))

end Classify

end Caura.Bulk
