import Caura.Contradiction.Retraction
import Caura.Memory.Rollback
import Mathlib.Data.List.Sort

/-!
# The other ways to undo a verdict

A verdict that no edge records is undone through `revertUnheldLoser`, which
keeps the loser demoted while an edge or another standing record holds it.  The
retraction of unlinked verdicts and a content edit of the winner both end there.
An edit also revives the row its own edge named, by `revertSupersededRow`, which
looks at that row alone.

Each function reads the store as the calls before it left it.
-/

namespace Caura.Contradiction

open Caura.Value Caura.Memory

/-! ## The rule for a verdict without an edge -/

/-- `memory_conflicts_list` with `memory_id` and the largest limit: the records
of the tenant that name the memory, oldest first. -/
def memoryConflictsList (conflicts : Conflicts) (tenantId : String)
    (memoryId : Uuid) : List Conflict :=
  ((conflicts.select fun record =>
    record.tenantId == tenantId && record.names memoryId).insertionSort
      fun first second => first.createdAt ≤ second.createdAt).take 200

/-- The record says that the loser lost to a row that can still be read. -/
def holdsLoser (memories : Memories) (tenantId : String) (loser : Row)
    (ignore : Conflict → Bool) (record : Conflict) : Bool :=
  record.standing && record.verdictApplied && !ignore record &&
    (getMemory memories (record.otherSide loser.id) tenantId).any fun rival =>
      rival.deletedAt.isNone && pickOlder loser rival == loser

/-- `revert_unheld_loser`: the table it leaves, and whether it reverted. -/
def revertUnheldLoser (now : Timestamp) (memories : Memories)
    (conflicts : Conflicts) (tenantId : String) (loser : Row)
    (ignore : Conflict → Bool) : Memories × Bool :=
  if !(findBySupersedesId memories tenantId loser.id).isEmpty then
    (memories, false)
  else if (memoryConflictsList conflicts tenantId loser.id).any
      (holdsLoser memories tenantId loser ignore) then
    (memories, false)
  else
    match getMemory memories loser.id tenantId with
    | none => (memories, false)
    | some fresh =>
      if fresh.contradicted then
        ((memoryUpdateStatus now memories loser.id tenantId
          { status := .active }).1, true)
      else
        (memories, false)

/-! ## Retracting verdicts without an edge -/

/-- `_UNLINKED_RETRACTION_CAP`. -/
def unlinkedRetractionCap : Nat :=
  3

/-- The other row and the loser of a record of the trigger that is to be judged
again. -/
def unlinkedVerdict (text : TextOps) (memories : Memories) (newMemory : Row)
    (record : Conflict) : Option (Row × Row) :=
  if record.newMemoryId = newMemory.id && record.standing &&
      record.verdictApplied then
    match getMemory memories record.oldMemoryId newMemory.tenantId with
    | none => none
    | some other =>
      let loser := pickOlder newMemory other
      if other.id = newMemory.id || newMemory.supersedesId == some other.id ||
          other.supersedesId == some newMemory.id || !loser.contradicted ||
          rdfPassWouldMark text newMemory other (loser.id == other.id) then
        none
      else
        some (other, loser)
  else
    none

/-- The records one after the other, with the number judged and reverted. -/
def retractUnlinkedLoop (text : TextOps) (now : Timestamp)
    (clears : Row → Row → Bool) (conflicts : Conflicts) (newMemory : Row) :
    List Conflict → Nat → Nat → Memories → Memories × Nat
  | [], _, reverted, memories => (memories, reverted)
  | record :: records, judged, reverted, memories =>
    match unlinkedVerdict text memories newMemory record with
    | none =>
      retractUnlinkedLoop text now clears conflicts newMemory records judged reverted memories
    | some (other, loser) =>
      if judged = unlinkedRetractionCap then
        (memories, reverted)
      else if clears (if loser.id = newMemory.id then other else newMemory) loser then
        let (written, revertedOne) := revertUnheldLoser now memories conflicts
          newMemory.tenantId loser fun other => other.id == record.id
        retractUnlinkedLoop text now clears conflicts newMemory records
          (judged + 1) (if revertedOne then reverted + 1 else reverted) written
      else
        retractUnlinkedLoop text now clears conflicts newMemory records
          (judged + 1) reverted memories

/-- `_retract_unlinked_verdicts`: the table it leaves, and how many rows it
reverted. -/
def retractUnlinkedVerdicts (text : TextOps) (now : Timestamp) (enabled : Bool)
    (clears : Row → Row → Bool) (memories : Memories) (conflicts : Conflicts)
    (newMemory : Row) : Memories × Nat :=
  if enabled then
    retractUnlinkedLoop text now clears conflicts newMemory
      (memoryConflictsList conflicts newMemory.tenantId newMemory.id) 0 0 memories
  else
    (memories, 0)

/-! ## A content edit -/

/-- The columns a content edit sets on the row. -/
def editedRow (content : String) (row : Row) : Row :=
  { row with
    content := content
    supersedesId := none
    status := if row.contradicted then .active else row.status
    subjectEntityId := none
    predicate := none
    objectValue := none
    verifiedBy := none
    verification :=
      if row.verification = .disputed ∧ row.contradicted = false then .disputed
      else row.automaticVerification }

theorem editedRow_id (content : String) (row : Row) : (editedRow content row).id = row.id :=
  rfl

/-- The columns set on a row whose parent's text is gone. -/
def goneRow (now : Timestamp) (row : Row) : Row :=
  { row with deletedAt := some now, status := .deleted }

theorem goneRow_id (now : Timestamp) (row : Row) : (goneRow now row).id = row.id :=
  rfl

/-- `_change_derived_rows` for a content edit: the children go, and the rows
derived from those. -/
def softDeleteChildren (now : Timestamp) (memories : Memories) (tenantId : String)
    (parentId : Uuid) : Memories :=
  let (written, taken) := memories.update (derivedRowsWhere tenantId [parentId])
    (goneRow now) (goneRow_id now)
  if taken.isEmpty then written
  else written.modify (derivedRowsWhere tenantId taken) (goneRow now)
    (goneRow_id now)

/-- The storage write of a content edit. -/
def writeContent (now : Timestamp) (memories : Memories) (tenantId : String)
    (memoryId : Uuid) (content : String) : Memories :=
  (softDeleteChildren now memories tenantId memoryId).modify
    (fun row => row.id == memoryId && row.tenantId == tenantId && row.deletedAt.isNone)
    (editedRow content) (editedRow_id content)

/-- `_revert_superseded_row`. -/
def revertSupersededRow (now : Timestamp) (memories : Memories)
    (tenantId : String) (supersededId : Uuid) : Memories :=
  match getMemory memories supersededId tenantId with
  | none => memories
  | some superseded =>
    if superseded.contradicted then
      (memoryUpdateStatus now memories supersededId tenantId
        { status := .active }).1
    else
      memories

/-- The row that the edge of an edited memory named, if it had one, comes back. -/
def revertEdgeLoser (now : Timestamp) (memories : Memories) (tenantId : String) :
    Option Uuid → Memories
  | none => memories
  | some supersededId => revertSupersededRow now memories tenantId supersededId

/-- The records of an edited winner one after the other. -/
def revertUnlinkedLoop (now : Timestamp) (conflicts : Conflicts)
    (tenantId : String) (winner : Row) :
    List Conflict → List Uuid → Memories → Memories
  | [], _, memories => memories
  | record :: records, seen, memories =>
    let otherId := record.otherSide winner.id
    if !record.standing || seen.contains otherId || otherId == winner.id ||
        winner.supersedesId == some otherId then
      revertUnlinkedLoop now conflicts tenantId winner records seen memories
    else
      revertUnlinkedLoop now conflicts tenantId winner records (otherId :: seen)
        (match getMemory memories otherId tenantId with
        | none => memories
        | some loser =>
          if pickOlder winner loser = loser then
            (revertUnheldLoser now memories conflicts tenantId loser
              fun other => other.names winner.id).1
          else
            memories)

/-- `_revert_unlinked_losers`. -/
def revertUnlinkedLosers (now : Timestamp) (memories : Memories)
    (conflicts : Conflicts) (tenantId : String) (winner : Row) : Memories :=
  revertUnlinkedLoop now conflicts tenantId winner
    (memoryConflictsList conflicts tenantId winner.id) [] memories

/-- A content edit of a memory: the write, then the row its edge named, then the
losers its records name.  Nothing happens when the memory cannot be read or its
text does not change, and the edit ends with its write when that deleted the
memory itself. -/
def editContent (now : Timestamp) (memories : Memories) (conflicts : Conflicts)
    (tenantId : String) (memoryId : Uuid) (content : String) : Memories :=
  match getMemory memories memoryId tenantId with
  | none => memories
  | some memory =>
    if content = memory.content then
      memories
    else
      let written := writeContent now memories tenantId memoryId content
      if (getMemory written memoryId tenantId).isNone then
        written
      else
        revertUnlinkedLosers now
          (revertEdgeLoser now written tenantId memory.supersedesId) conflicts
          tenantId memory

end Caura.Contradiction
