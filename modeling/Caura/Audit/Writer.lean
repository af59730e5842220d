import Caura.Audit.Canonical

/-!
# The audit chain writer

`auditChainOneTenant` chains a group of events of one tenant in a transaction: it
reads the head of the tenant, drops events that were chained before or occur
twice in the group, numbers and hashes the others, inserts their rows and moves
the head.  The head row is locked throughout, so the transactions of a tenant are
serial and each of them is one step.  `auditAdd` chains one event and
`auditAddBatchChained` a batch, one transaction for each tenant in it.

A transaction takes the time, the ids of new rows and whether the database fails
it from outside.
-/

namespace Caura.Audit

open Caura.Value

/-! ## Tables -/

/-- `AuditChainHead`: the end of a tenant's chain. -/
structure ChainHead where
  lastSeq : Int
  lastHash : Bytes
  deriving DecidableEq

/-- The tables `audit_log` and `audit_chain_head`. -/
structure AuditStore where
  rows : List AuditRow
  heads : String → Option ChainHead

/-- The end of an empty chain. -/
def ChainHead.genesis : ChainHead :=
  ⟨0, genesisPrevHash⟩

namespace AuditStore

/-- The rows of a tenant. -/
def tenantRows (store : AuditStore) (tenantId : String) : List AuditRow :=
  store.rows.filter fun row => row.tenantId == tenantId

/-- The chained rows of a tenant. -/
def chainRows (store : AuditStore) (tenantId : String) : List AuditRow :=
  (store.tenantRows tenantId).filter fun row => row.seq.isSome

/-- The client ids a tenant's rows carry. -/
def clientEventIds (store : AuditStore) (tenantId : String) : List String :=
  (store.tenantRows tenantId).filterMap AuditRow.clientEventId

/-- The head of a tenant, which starts as the genesis head. -/
def head (store : AuditStore) (tenantId : String) : ChainHead :=
  (store.heads tenantId).getD .genesis

/-- What the transaction of a tenant commits: its rows and its head. -/
def commit (store : AuditStore) (tenantId : String) (rows : List AuditRow)
    (head : ChainHead) : AuditStore where
  rows := store.rows ++ rows
  heads := Function.update store.heads tenantId (some head)

section Commit

variable {store : AuditStore} {tenantId other : String} {rows : List AuditRow}
  {head : ChainHead}

@[simp]
theorem head_commit : (store.commit tenantId rows head).head tenantId = head := by
  simp [AuditStore.head, commit]

theorem head_commit_of_ne (differs : other ≠ tenantId) :
    (store.commit tenantId rows head).head other = store.head other := by
  simp [AuditStore.head, commit, differs]

theorem tenantRows_commit (owned : ∀ row ∈ rows, row.tenantId = tenantId) :
    (store.commit tenantId rows head).tenantRows tenantId = store.tenantRows tenantId ++ rows := by
  simp only [tenantRows, commit, List.filter_append]
  rw [List.filter_eq_self.mpr fun row rowMem => beq_iff_eq.mpr (owned row rowMem)]

theorem tenantRows_commit_of_ne (owned : ∀ row ∈ rows, row.tenantId = tenantId)
    (differs : other ≠ tenantId) :
    (store.commit tenantId rows head).tenantRows other = store.tenantRows other := by
  have noneOther : (rows.filter fun row => row.tenantId == other) = [] := by
    simp only [List.filter_eq_nil_iff, beq_iff_eq]
    intro row rowMem isOther
    exact differs (isOther.symm.trans (owned row rowMem))
  simp [tenantRows, commit, noneOther]

end Commit

end AuditStore

/-! ## Events -/

/-- An event of a batch. -/
structure Event where
  tenantId : String
  agentId : Option String
  action : String
  resourceType : String
  resourceId : Option ResourceId
  detail : Json
  createdAt : Option Instant
  clientEventId : Option String

/-- Why a transaction is rolled back. -/
inductive ChainError where
  /-- `PIIInAuditError`. -/
  | piiInAudit
  /-- The scrubbed detail is not a dictionary. -/
  | scrubbedNotDict
  /-- The column of resource ids refuses a text. -/
  | invalidResourceId (id : String)
  /-- Any other failure of the database. -/
  | storage
  deriving DecidableEq

/-- What a transaction takes from outside. -/
structure Transaction where
  now : Instant
  newId : Int → Uuid
  fails : Bool

/-- A row that is built and not yet inserted. -/
structure PendingRow where
  fields : EventFields
  createdAt : Instant
  hashedAt : fields.createdAtIso = canonicalCreatedAt createdAt
  prevHash : Bytes
  eventHash : Bytes
  clientEventId : Option String

/-- What the loop over the events accumulates. -/
structure Draft where
  seq : Int
  prevHash : Bytes
  seenInBatch : List String
  rows : List PendingRow

/-! ## One tenant -/

/-- The client ids of a group that the tenant's rows already carry. -/
def alreadyChained (store : AuditStore) (tenantId : String) (events : List Event) : List String :=
  let incomingIds := events.filterMap Event.clientEventId
  (store.clientEventIds tenantId).filter fun id => incomingIds.contains id

/-- An event that was chained before or earlier in the group. -/
def isDuplicate (chained seenInBatch : List String) (event : Event) : Bool :=
  match event.clientEventId with
  | none => false
  | some id => chained.contains id || seenInBatch.contains id

/-- The row of an event with a scrubbed detail, next in the chain. -/
def pendingRow (platform : Platform) (tenantId : String) (now : Instant)
    (draft : Draft) (event : Event) (detail : Json) : PendingRow :=
  let createdAt := event.createdAt.getD now
  let fields : EventFields :=
    { tenantId := tenantId
      seq := some (draft.seq + 1)
      agentId := event.agentId
      action := event.action
      resourceType := event.resourceType
      resourceId := event.resourceId
      detail := detail
      createdAtIso := canonicalCreatedAt createdAt }
  { fields := fields
    createdAt := createdAt
    hashedAt := rfl
    prevHash := draft.prevHash
    eventHash := computeEventHash (canonicalEvent platform fields) draft.prevHash
    clientEventId := event.clientEventId }

/-- The loop's accumulators once a row is added. -/
def Draft.push (draft : Draft) (row : PendingRow) : Draft where
  seq := draft.seq + 1
  prevHash := row.eventHash
  seenInBatch := draft.seenInBatch ++ row.clientEventId.toList
  rows := draft.rows ++ [row]

/-- One round of the loop of `_audit_chain_one_tenant`. -/
def chainEvent (platform : Platform) (tenantId : String) (now : Instant)
    (chained : List String) (draft : Draft) (event : Event) :
    Except ChainError Draft :=
  if isDuplicate chained draft.seenInBatch event then
    .ok draft
  else
    match scrubPii platform.classes event.detail with
    | none => .error .scrubbedNotDict
    | some detail =>
      if assertPiiSafe platform.classes detail then
        .ok (draft.push (pendingRow platform tenantId now draft event detail))
      else
        .error .piiInAudit

/-- What the column of resource ids stores. -/
def resourceIdColumn (platform : Platform) : Option ResourceId → Except ChainError (Option Uuid)
  | none => .ok none
  | some (.uuid id) => .ok (some id)
  | some (.text id) =>
    match platform.parseUuid id with
    | some uuid => .ok (some uuid)
    | none => .error (.invalidResourceId id)

/-- The stored row of a pending one, as it is read back. -/
def PendingRow.insert (platform : Platform) (newId : Int → Uuid) (row : PendingRow) :
    Except ChainError AuditRow :=
  (resourceIdColumn platform row.fields.resourceId).map fun resourceId =>
    { id := newId (row.fields.seq.getD 0)
      tenantId := row.fields.tenantId
      agentId := row.fields.agentId
      action := row.fields.action
      resourceType := row.fields.resourceType
      resourceId := resourceId
      detail := platform.detailColumn row.fields.detail
      createdAt := some row.createdAt
      seq := row.fields.seq
      prevHash := some row.prevHash
      eventHash := some row.eventHash
      clientEventId := row.clientEventId }

/-- The loop's accumulators before the first event. -/
def Draft.start (head : ChainHead) : Draft :=
  ⟨head.lastSeq, head.lastHash, [], []⟩

/-- `_audit_chain_one_tenant`. -/
def auditChainOneTenant (platform : Platform) (transaction : Transaction)
    (store : AuditStore) (tenantId : String) (events : List Event) :
    Except ChainError AuditStore := do
  let chained := alreadyChained store tenantId events
  let draft ← events.foldlM (chainEvent platform tenantId transaction.now chained)
    (Draft.start (store.head tenantId))
  let rows ← draft.rows.mapM (PendingRow.insert platform transaction.newId)
  if transaction.fails then
    .error .storage
  else
    .ok (store.commit tenantId rows ⟨draft.seq, draft.prevHash⟩)

/-! ## Calls -/

/-- `audit_add`. -/
def auditAdd (platform : Platform) (transaction : Transaction) (store : AuditStore)
    (tenantId : String) (agentId : Option String) (action resourceType : String)
    (resourceId : Option Uuid) (detail : Json) : Except ChainError AuditStore :=
  auditChainOneTenant platform transaction store tenantId
    [{ tenantId := tenantId
       agentId := agentId
       action := action
       resourceType := resourceType
       resourceId := resourceId.map .uuid
       detail := detail
       createdAt := none
       clientEventId := none }]

/-- An event appended to the group of its tenant. -/
def addToGroup (event : Event) : List (String × List Event) → List (String × List Event)
  | [] => [(event.tenantId, [event])]
  | (tenantId, group) :: groups =>
    if tenantId = event.tenantId then
      (tenantId, group ++ [event]) :: groups
    else (tenantId, group) :: addToGroup event groups

/-- The events of a batch by tenant, in the order in which tenants appear. -/
def byTenant (events : List Event) : List (String × List Event) :=
  events.foldl (fun groups event => addToGroup event groups) []

/-- A group of a batch: when it fails, its changes are rolled back and the first
failure is kept. -/
def chainGroup (platform : Platform) (transactions : String → Transaction)
    (state : AuditStore × Option ChainError) (group : String × List Event) :
    AuditStore × Option ChainError :=
  match auditChainOneTenant platform (transactions group.1) state.1 group.1 group.2 with
  | .ok store => (store, state.2)
  | .error error => (state.1, state.2.or (some error))

/-- `audit_add_batch_chained`: the tables after the call and the failure it
raises. -/
def auditAddBatchChained (platform : Platform) (transactions : String → Transaction)
    (store : AuditStore) (events : List Event) : AuditStore × Option ChainError :=
  (byTenant events).foldl (chainGroup platform transactions) (store, none)

/-- A call of the writer. -/
inductive Call where
  | auditAdd (transaction : Transaction) (tenantId : String)
      (agentId : Option String) (action resourceType : String)
      (resourceId : Option Uuid) (detail : Json)
  | auditAddBatchChained (transactions : String → Transaction) (events : List Event)

/-- The tables after a call, which may have raised. -/
def Call.apply (platform : Platform) (store : AuditStore) : Call → AuditStore
  | .auditAdd transaction tenantId agentId action resourceType resourceId detail =>
    match Audit.auditAdd platform transaction store tenantId agentId action
      resourceType resourceId detail with
    | .ok after => after
    | .error _ => store
  | .auditAddBatchChained transactions events =>
    (Audit.auditAddBatchChained platform transactions store events).1

/-- The rows from before the chain was introduced: they have no number and no
client id. -/
structure LegacyLog where
  rows : List AuditRow
  unchained : ∀ row ∈ rows, row.seq = none ∧ row.clientEventId = none

/-- The tables when the chain was introduced. -/
def LegacyLog.store (legacy : LegacyLog) : AuditStore :=
  ⟨legacy.rows, fun _ => none⟩

/-- The tables after a sequence of calls. -/
def runCalls (platform : Platform) (store : AuditStore) (calls : List Call) : AuditStore :=
  calls.foldl (Call.apply platform) store

end Caura.Audit
