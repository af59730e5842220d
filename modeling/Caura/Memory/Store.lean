import Caura.Memory.Order

/-!
# Storage operations on memories

The reads and writes that contradiction detection and its undo paths make:
the read by id, the guarded status write, the compare-and-set of a supersedes
edge, the retraction of an edge, and the batch route that combines the first
two row by row.  Each service call is one transaction.

A write returns the table it leaves together with its answer, so that what a
failing batch committed before it failed is part of the result.
-/

namespace Caura.Memory

open Caura.Value

/-! ## Texts -/

/-- The stored text of a status. -/
def Status.text : Status → String
  | .active => "active"
  | .pending => "pending"
  | .confirmed => "confirmed"
  | .cancelled => "cancelled"
  | .outdated => "outdated"
  | .conflicted => "conflicted"
  | .archived => "archived"
  | .deleted => "deleted"
  | .quarantined => "quarantined"

/-- Why a status write is refused. -/
inductive StatusError where
  | heldByUpdate
  | notAnExit (status : Status)
  | pointerNotInTenant (field : String)
  deriving DecidableEq, Repr

/-- The text a refusal carries. -/
def StatusError.message : StatusError → String
  | .heldByUpdate => "a memory is held when it is written, never by a status update"
  | .notAnExit status =>
    "a held memory becomes one of " ++
      ", ".intercalate (Status.quarantineExits.map Status.text) ++ ", not " ++ status.text
  | .pointerNotInTenant field => field ++ " does not name a row in this tenant"

/-! ## Reads -/

/-- `memory_get_by_id_for_tenant`: a memory of the tenant that is neither
deleted nor held. -/
def getMemory (memories : Memories) (memoryId : Uuid) (tenantId : String) : Option Row :=
  (memories.lookup memoryId).filter fun row =>
    row.tenantId == tenantId && row.readable

/-- `memory_find_by_supersedes_id`: the rows whose edge points at a memory. -/
def findBySupersedesId (memories : Memories) (tenantId : String)
    (supersedesId : Uuid) : List Row :=
  memories.select fun row =>
    row.tenantId == tenantId && row.supersedesId == some supersedesId &&
      row.deletedAt.isNone

/-- `_assert_pointers_in_tenant`: every id is a row of the tenant, deleted or
not. -/
def pointersInTenant (memories : Memories) (tenantId : String) (pointers : List Uuid) : Bool :=
  pointers.all fun pointer =>
    (memories.lookup pointer).any fun row => row.tenantId == tenantId

/-! ## The guarded status write -/

/-- The arguments of `memory_update_status` besides the row and the tenant. -/
structure StatusWrite where
  status : Status
  supersedesId : Option Uuid := none
  unsetSupersedes : Bool := false
  expectedSupersedesId : Option Uuid := none
  releaseHold : Bool := false
  deriving DecidableEq, Repr

/-- `verification_on_status_change`: a conflict disputes the row, and a live
status undoes a dispute. -/
def verificationOnStatusChange (status : Status) (row : Row) : Verification :=
  match status with
  | .conflicted => .disputed
  | .active | .pending | .confirmed =>
    if row.verification = .disputed then row.undisputedVerification
    else row.verification
  | _ => row.verification

namespace StatusWrite

/-- The write releases a held memory by rejecting it. -/
def rejected (write : StatusWrite) : Bool :=
  write.releaseHold && write.status == .cancelled

/-- The pointer the write stores, if it stores one. -/
def pointer (write : StatusWrite) : Option Uuid :=
  if write.unsetSupersedes then none else write.supersedesId

/-- The row condition of the update. -/
def selects (write : StatusWrite) (memoryId : Uuid) (tenantId : String) (row : Row) : Bool :=
  row.id == memoryId && row.tenantId == tenantId && row.deletedAt.isNone &&
    (if write.releaseHold then row.status == .quarantined
      else row.status != .quarantined) &&
    write.expectedSupersedesId.all fun expected =>
      row.supersedesId == some expected

/-- The columns the update sets. -/
def change (write : StatusWrite) (now : Timestamp) (row : Row) : Row :=
  { row with
    status := write.status
    verification := verificationOnStatusChange write.status row
    deletedAt := if write.rejected then some now else row.deletedAt
    supersedesId :=
      if write.unsetSupersedes then none
      else write.supersedesId.or row.supersedesId }

theorem change_id (write : StatusWrite) (now : Timestamp) (row : Row) :
    (write.change now row).id = row.id :=
  rfl

/-- The held chunks cut from the memory, which leave quarantine with it. -/
def selectsChunk (memoryId : Uuid) (tenantId : String) (row : Row) : Bool :=
  row.tenantId == tenantId && row.deletedAt.isNone &&
    row.parentMemoryId == some memoryId.str && row.status == .quarantined

/-- The columns set on a chunk. -/
def changeChunk (write : StatusWrite) (now : Timestamp) (row : Row) : Row :=
  { row with
    status := write.status
    deletedAt := if write.rejected then some now else row.deletedAt }

theorem changeChunk_id (write : StatusWrite) (now : Timestamp) (row : Row) :
    (write.changeChunk now row).id = row.id :=
  rfl

end StatusWrite

/-- `memory_update_status`: the table after the call, and whether a row was
updated. -/
def memoryUpdateStatus (now : Timestamp) (memories : Memories)
    (memoryId : Uuid) (tenantId : String) (write : StatusWrite) :
    Memories × Except StatusError Bool :=
  if write.status = .quarantined then
    (memories, .error .heldByUpdate)
  else if write.releaseHold && !Status.quarantineExits.contains write.status then
    (memories, .error (.notAnExit write.status))
  else if !pointersInTenant memories tenantId write.pointer.toList then
    (memories, .error (.pointerNotInTenant "supersedes_id"))
  else
    let moved := memories.rows.any (write.selects memoryId tenantId)
    let written := memories.modify (write.selects memoryId tenantId)
      (write.change now) (write.change_id now)
    if moved && write.releaseHold then
      (written.modify (StatusWrite.selectsChunk memoryId tenantId)
        (write.changeChunk now) (write.changeChunk_id now), .ok moved)
    else
      (written, .ok moved)

/-! ## Supersedes edges -/

/-- The row condition of `memory_set_supersedes_if_null`, target aside. -/
def unlinked (memoryId : Uuid) (tenantId : String) (row : Row) : Bool :=
  row.id == memoryId && row.tenantId == tenantId && row.readable &&
    row.supersedesId.isNone

/-- The row with its edge set. -/
def linkTo (supersedesId : Uuid) (row : Row) : Row :=
  { row with supersedesId := some supersedesId }

theorem linkTo_id (supersedesId : Uuid) (row : Row) : (linkTo supersedesId row).id = row.id :=
  rfl

/-- `memory_set_supersedes_if_null`: write the edge unless the row has one. -/
def memorySetSupersedesIfNull (memories : Memories) (memoryId : Uuid)
    (supersedesId : Uuid) (tenantId : String) : Memories × Bool :=
  if pointersInTenant memories tenantId [supersedesId] then
    (memories.modify (unlinked memoryId tenantId) (linkTo supersedesId) (linkTo_id supersedesId),
      memories.rows.any (unlinked memoryId tenantId))
  else
    (memories, false)

/-- The row condition of the retracting status route: the edge is still the
expected one, or already cleared. -/
def retractable (memoryId : Uuid) (tenantId : String) (expected : Uuid) (row : Row) : Bool :=
  row.id == memoryId && row.tenantId == tenantId && row.readable &&
    (row.supersedesId == some expected || row.supersedesId.isNone)

/-- The row with its edge cleared and its status set. -/
def unlinkAs (status : Status) (row : Row) : Row :=
  { row with
    supersedesId := none
    status := status
    verification := verificationOnStatusChange status row }

theorem unlinkAs_id (status : Status) (row : Row) : (unlinkAs status row).id = row.id :=
  rfl

/-- The retracting status route: clear the edge and set the status in one
statement.  `false` is the answer 404 or 409. -/
def retractSupersedes (memories : Memories) (memoryId : Uuid) (status : Status)
    (tenantId : String) (expected : Uuid) : Memories × Bool :=
  if status = .quarantined then
    (memories, false)
  else
    (memories.modify (retractable memoryId tenantId expected)
        (unlinkAs status) (unlinkAs_id status),
      memories.rows.any (retractable memoryId tenantId expected))

/-! ## The batch route -/

/-- One item of a batch of status updates. -/
structure Update where
  memoryId : Uuid
  status : Status
  supersedesId : Option Uuid := none
  unsetSupersedes : Bool := false
  expectedSupersedesId : Option Uuid := none
  expectSupersedesNull : Bool := false
  deriving DecidableEq, Repr

namespace Update

/-- The edge the item asks to be written under the compare-and-set. -/
def casEdge (update : Update) : Option Uuid :=
  if update.expectSupersedesNull && !update.unsetSupersedes then
    update.supersedesId
  else
    none

/-- The status write of the item. -/
def statusWrite (update : Update) : StatusWrite where
  status := update.status
  supersedesId := if update.casEdge.isSome then none else update.supersedesId
  unsetSupersedes := update.unsetSupersedes
  expectedSupersedesId := update.expectedSupersedesId

/-- The pointer the batch checks before it writes any row. -/
def pointer (update : Update) : Option Uuid :=
  if update.unsetSupersedes then none else update.supersedesId

end Update

/-- The rows a batch declined: those whose status write did not land, and those
whose status landed but whose edge was taken. -/
structure BatchAnswer where
  skipped : List Uuid := []
  edgeSkipped : List Uuid := []
  deriving DecidableEq, Repr

/-- All of them. -/
def BatchAnswer.declined (answer : BatchAnswer) : List Uuid :=
  answer.skipped ++ answer.edgeSkipped

/-- One row of a batch: the status first, then the edge. -/
def batchRow (now : Timestamp) (tenantId : String) (memories : Memories)
    (answer : BatchAnswer) (update : Update) :
    Memories × Except StatusError BatchAnswer :=
  match memoryUpdateStatus now memories update.memoryId tenantId
      update.statusWrite with
  | (written, .error refusal) => (written, .error refusal)
  | (written, .ok false) =>
    (written, .ok { answer with
      skipped := answer.skipped ++ [update.memoryId] })
  | (written, .ok true) =>
    match update.casEdge with
    | none => (written, .ok answer)
    | some target =>
      match memorySetSupersedesIfNull written update.memoryId target
          tenantId with
      | (linked, true) => (linked, .ok answer)
      | (linked, false) =>
        (linked, .ok { answer with
          edgeSkipped := answer.edgeSkipped ++ [update.memoryId] })

/-- The rows of a batch, one after the other, up to the first refusal. -/
def batchRows (now : Timestamp) (tenantId : String) :
    Memories → BatchAnswer → List Update → Memories × Except StatusError BatchAnswer
  | memories, answer, [] => (memories, .ok answer)
  | memories, answer, update :: updates =>
    match batchRow now tenantId memories answer update with
    | (written, .error refusal) => (written, .error refusal)
    | (written, .ok answer) => batchRows now tenantId written answer updates

/-- `POST /memories/batch-update-status`. -/
def batchUpdateStatus (now : Timestamp) (memories : Memories)
    (tenantId : String) (updates : List Update) :
    Memories × Except StatusError BatchAnswer :=
  if pointersInTenant memories tenantId (updates.filterMap Update.pointer) then
    batchRows now tenantId memories {} updates
  else
    (memories, .error (.pointerNotInTenant "supersedes_id"))

end Caura.Memory
