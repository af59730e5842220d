import Caura.Relation.Sweep
import Caura.Memory.Verdict
import Caura.Memory.Writes

/-!
# Session rollback

`memory_rollback_session` outdates what a session wrote and what was derived
from it, restores what those rows had held down, and rejects what of the session
is still held for review.  The outdating is a sweep of the table by generations,
so it ends and outdates exactly the closure `RolledBack`.

The query that restores rows reads conflict records in one orientation and
whatever became of them.  The theorem says for which stores its answer is still
the one `Defeats` gives: a row the session beat becomes active exactly when no
other live row beats it.
-/

namespace Caura.Memory

open Caura.Relation Caura.Value List Table

/-! ## The queries -/

/-- `session_rows_where`. -/
def sessionRowsWhere (tenantId sessionId : String) (row : Row) : Bool :=
  row.tenantId == tenantId && row.deletedAt.isNone &&
    row.sessionId == some sessionId

/-- `derived_rows_where`. -/
def derivedRowsWhere (tenantId : String) (parentIds : List Uuid) (row : Row) : Bool :=
  row.tenantId == tenantId && row.deletedAt.isNone &&
    row.parentMemoryId.any fun parent =>
      (parentIds.map Uuid.str).contains parent

/-- `Memory.status.in_(LIVE_MEMORY_STATUSES)`. -/
def liveStatus (row : Row) : Bool :=
  Status.live.contains row.status

/-- The columns a rollback sets, `status_changed_at` aside. -/
def moveTo (status : Status) (row : Row) : Row :=
  { row with status := status }

theorem moveTo_id (status : Status) (row : Row) : (moveTo status row).id = row.id :=
  rfl

/-- The columns a rollback sets on a memory it rejects. -/
def reject (now : Timestamp) (row : Row) : Row :=
  { row with status := .cancelled, deletedAt := some now }

theorem reject_id (now : Timestamp) (row : Row) : (reject now row).id = row.id :=
  rfl

/-- A rolled-back row held the memory down, by its edge or by a record that
names the memory as the older side. -/
def heldDown (memories : Memories) (conflicts : Conflicts) (tenantId : String)
    (rolledBack : List Uuid) (memoryId : Uuid) : Bool :=
  (memories.rows.any fun successor =>
    successor.tenantId == tenantId && rolledBack.contains successor.id &&
      successor.supersedesId == some memoryId) ||
  conflicts.rows.any fun record =>
    record.tenantId == tenantId && rolledBack.contains record.newMemoryId &&
      record.oldMemoryId == memoryId

/-- A live memory still supersedes the memory. -/
def stillSuperseded (memories : Memories) (tenantId : String) (memoryId : Uuid) : Bool :=
  memories.rows.any fun standing =>
    standing.tenantId == tenantId && standing.supersedesId == some memoryId &&
      standing.live

/-- A record names the memory as the older side against a live one. -/
def stillContradicted (memories : Memories) (conflicts : Conflicts)
    (tenantId : String) (memoryId : Uuid) : Bool :=
  conflicts.rows.any fun record =>
    record.tenantId == tenantId && record.oldMemoryId == memoryId &&
      (memories.lookup record.newMemoryId).any Row.live

/-- The rows a rollback restores. -/
def restoredWhere (memories : Memories) (conflicts : Conflicts)
    (tenantId sessionId : String) (rolledBack : List Uuid) (row : Row) : Bool :=
  row.tenantId == tenantId && row.deletedAt.isNone && row.contradicted &&
    heldDown memories conflicts tenantId rolledBack row.id &&
    !rolledBack.contains row.id && row.sessionId != some sessionId &&
    !stillSuperseded memories tenantId row.id &&
    !stillContradicted memories conflicts tenantId row.id

/-! ## The rollback -/

/-- The table a rollback leaves, and the ids it changed. -/
structure Rollback where
  memories : Memories
  outdated : List Uuid
  restored : List Uuid
  cancelled : List Uuid

/-- Outdate the session's live rows and the live rows derived from them. -/
def outdateSession (memories : Memories) (tenantId sessionId : String) :
    Option (Memories × List Uuid) :=
  let (written, outdated) := memories.update
    (fun row => sessionRowsWhere tenantId sessionId row && liveStatus row)
    (moveTo .outdated) (moveTo_id .outdated)
  Table.sweep
    (fun parents row => derivedRowsWhere tenantId parents row && liveStatus row)
    (moveTo .outdated) (moveTo_id .outdated) (memories.rows.length + 1)
    written outdated outdated

/-- Restore what the outdated rows had held down. -/
def restoreHeldDown (memories : Memories) (conflicts : Conflicts)
    (tenantId sessionId : String) (outdated : List Uuid) : Memories × List Uuid :=
  if outdated.isEmpty then
    (memories, [])
  else
    memories.update
      (restoredWhere memories conflicts tenantId sessionId outdated)
      (moveTo .active) (moveTo_id .active)

/-- Reject the session's held rows and the chunks held with them. -/
def rejectHeld (now : Timestamp) (memories : Memories)
    (tenantId sessionId : String) : Memories × List Uuid :=
  let (written, cancelled) := memories.update
    (fun row => sessionRowsWhere tenantId sessionId row && row.status == .quarantined)
    (reject now) (reject_id now)
  if cancelled.isEmpty then
    (written, [])
  else
    let (withChunks, chunks) := written.update
      (fun row => derivedRowsWhere tenantId cancelled row && row.status == .quarantined)
      (reject now) (reject_id now)
    (withChunks, cancelled ++ chunks)

/-- `memory_rollback_session`. -/
def memoryRollbackSession (now : Timestamp) (memories : Memories)
    (conflicts : Conflicts) (tenantId sessionId : String) : Option Rollback := do
  let (marked, outdated) ← outdateSession memories tenantId sessionId
  let (recovered, restored) :=
    restoreHeldDown marked conflicts tenantId sessionId outdated
  let (final, cancelled) := rejectHeld now recovered tenantId sessionId
  some { memories := final, outdated, restored, cancelled }

/-! ## What is rolled back -/

/-- The row was derived from the memory. -/
def DerivedFrom (parent : Uuid) (row : Row) : Prop :=
  row.parentMemoryId = some parent.str

/-- The live rows of the session, and the live rows derived from those. -/
def RolledBack (memories : Memories) (tenantId sessionId : String) : Row → Prop :=
  memories.Swept
    (fun row => sessionRowsWhere tenantId sessionId row && liveStatus row)
    (fun row => row.tenantId == tenantId && row.live) DerivedFrom

/-- Everything the session wrote, whatever became of it, and everything derived
from that. -/
def WrittenBy (memories : Memories) (tenantId sessionId : String) : Row → Prop :=
  memories.Swept
    (fun row => row.tenantId == tenantId && row.sessionId == some sessionId)
    (fun row => row.tenantId == tenantId) DerivedFrom

variable {row : Row} {parents outdated : List Uuid}

theorem derivedRowsWhere_iff {tenantId : String} : derivedRowsWhere tenantId parents row = true ↔
      row.tenantId = tenantId ∧ row.deletedAt = none ∧
        ∃ parent ∈ parents, DerivedFrom parent row := by
  simp only [derivedRowsWhere, Bool.and_eq_true, beq_iff_eq, Option.isNone_iff_eq_none,
    Option.any_eq_true, contains_iff_mem, mem_map, and_assoc]
  refine and_congr_right' (and_congr_right' ⟨?_, ?_⟩)
  · rintro ⟨_, parentEq, parent, parentMem, rfl⟩
    exact ⟨parent, parentMem, parentEq⟩
  · rintro ⟨parent, parentMem, parentEq⟩
    exact ⟨parent.str, parentEq, parent, parentMem, rfl⟩

theorem live_iff : row.live = true ↔ row.deletedAt = none ∧ liveStatus row = true := by
  simp [Row.live, liveStatus]

theorem sweepable_outdate (tenantId : String) : Table.Sweepable
      (fun parents row => derivedRowsWhere tenantId parents row && liveStatus row)
      (moveTo .outdated) (fun row => row.tenantId == tenantId && row.live)
      DerivedFrom where
  derived_iff parents row := by
    simp only [Bool.and_eq_true, derivedRowsWhere_iff, live_iff, beq_iff_eq]
    tauto
  spent row := by
    simp [Row.live, moveTo, Status.live]

/-- Outdating ends, and outdates exactly what is rolled back. -/
theorem outdateSession_spec {memories : Memories} {tenantId sessionId : String} : ∃ outdated,
      outdateSession memories tenantId sessionId =
        some (memories.modify (fun row => row.id ∈ outdated) (moveTo .outdated)
          (moveTo_id .outdated), outdated) ∧
      ∀ id, id ∈ outdated ↔ ∃ row, RolledBack memories tenantId sessionId row ∧ row.id = id :=
  sweep_spec memories (sweepable_outdate tenantId) (moveTo_id .outdated)
    fun row => sessionRowsWhere tenantId sessionId row && liveStatus row

variable {tenantId sessionId : String} {memories : Memories}

section

variable (rolledBack : RolledBack memories tenantId sessionId row)

include rolledBack

theorem RolledBack.tenantId_eq : row.tenantId = tenantId := by
  cases rolledBack with
  | seed _ seeded =>
    simp only [sessionRowsWhere, Bool.and_eq_true, beq_iff_eq] at seeded
    exact seeded.1.1.1
  | derived _ _ isFresh _ =>
    simp only [Bool.and_eq_true, beq_iff_eq] at isFresh
    exact isFresh.1

/-- Only live rows are rolled back. -/
theorem RolledBack.liveStatus : liveStatus row = true := by
  cases rolledBack with
  | seed _ seeded => exact (Bool.and_eq_true_iff.mp seeded).2
  | derived _ _ isFresh _ => exact (live_iff.mp (Bool.and_eq_true_iff.mp isFresh).2).2

/-- What is rolled back was written by the session. -/
theorem RolledBack.writtenBy : WrittenBy memories tenantId sessionId row := by
  induction rolledBack with
  | seed rowMem seeded =>
    refine .seed rowMem ?_
    simp only [sessionRowsWhere, Bool.and_eq_true] at seeded ⊢
    exact ⟨seeded.1.1.1, seeded.1.2⟩
  | derived _ rowMem isFresh isChild written =>
    refine .derived written rowMem ?_ isChild
    simp only [Bool.and_eq_true] at isFresh
    exact isFresh.1

end

/-! ## What the restoring query sees -/

variable {conflicts : Conflicts} {loser : Row}

section Restore

/-- The row is live and survives the rollback. -/
def Survives (memories : Memories) (tenantId sessionId : String) (row : Row) : Prop :=
  row ∈ memories ∧ row.live = true ∧ ¬ RolledBack memories tenantId sessionId row

/-- A rolled-back row held the memory down, as the query looks for it: by its
edge, or by a record of any kind that names the memory as the older side. -/
def ReachedByQuery (memories : Memories) (conflicts : Conflicts)
    (tenantId sessionId : String) (loser : Row) : Prop :=
  ∃ winner, RolledBack memories tenantId sessionId winner ∧
    (winner.supersedesId = some loser.id ∨ ∃ record ∈ conflicts, record.tenantId = tenantId ∧
        record.newMemoryId = winner.id ∧ record.oldMemoryId = loser.id)

/-- A record of any kind names the memory as the older side against a surviving
row. -/
def BlockedByQuery (memories : Memories) (conflicts : Conflicts)
    (tenantId sessionId : String) (loser : Row) : Prop :=
  ∃ winner, Survives memories tenantId sessionId winner ∧
    ∃ record ∈ conflicts, record.tenantId = tenantId ∧
      record.newMemoryId = winner.id ∧ record.oldMemoryId = loser.id

/-- A surviving row's edge names the memory. -/
def SupersededBySurvivor (memories : Memories) (tenantId sessionId : String)
    (loser : Row) : Prop :=
  ∃ winner, Survives memories tenantId sessionId winner ∧
    winner.tenantId = tenantId ∧ winner.supersedesId = some loser.id

/-- A record whose verdict stands says that the memory lost to a surviving
row. -/
def LostToSurvivor (memories : Memories) (conflicts : Conflicts)
    (tenantId sessionId : String) (loser : Row) : Prop :=
  ∃ winner, Survives memories tenantId sessionId winner ∧
    winner.tenantId = tenantId ∧ RecordedLoss conflicts tenantId winner loser

/-- A surviving row still beats the memory. -/
def StillBeaten (memories : Memories) (conflicts : Conflicts)
    (tenantId sessionId : String) (loser : Row) : Prop :=
  ∃ winner, Survives memories tenantId sessionId winner ∧
    winner.tenantId = tenantId ∧ Defeats conflicts tenantId winner loser

theorem stillBeaten_iff : StillBeaten memories conflicts tenantId sessionId loser ↔
      SupersededBySurvivor memories tenantId sessionId loser ∨
        LostToSurvivor memories conflicts tenantId sessionId loser := by
  simp [StillBeaten, SupersededBySurvivor, LostToSurvivor, Defeats, and_or_left, exists_or]

variable
  (outdatedIff : ∀ id, id ∈ outdated ↔
    ∃ row, RolledBack memories tenantId sessionId row ∧ row.id = id)

include outdatedIff

theorem id_mem_outdated_iff (rowMem : row ∈ memories) :
    row.id ∈ outdated ↔ RolledBack memories tenantId sessionId row :=
  (outdatedIff row.id).trans (Table.Swept.exists_key_iff rowMem)

/-- The live rows of the outdated table are the surviving ones. -/
theorem mem_marked_live_iff :
    row ∈ memories.modify (fun row => row.id ∈ outdated) (moveTo .outdated)
        (moveTo_id .outdated) ∧ row.live = true ↔
      Survives memories tenantId sessionId row := by
  rw [mem_modify_iff]
  constructor
  · rintro ⟨⟨before, beforeMem, rfl⟩, isLive⟩
    by_cases moved : before.id ∈ outdated
    · simp [moved, Row.live, moveTo, Status.live] at isLive
    · simp only [moved] at isLive ⊢
      exact ⟨beforeMem, isLive, mt (id_mem_outdated_iff outdatedIff beforeMem).mpr moved⟩
  · rintro ⟨rowMem, isLive, stays⟩
    have unmoved := mt (id_mem_outdated_iff outdatedIff rowMem).mp stays
    exact ⟨⟨row, rowMem, by simp [unmoved]⟩, isLive⟩

theorem stillSuperseded_iff : stillSuperseded (memories.modify (fun row => row.id ∈ outdated)
        (moveTo .outdated) (moveTo_id .outdated)) tenantId loser.id = true ↔
      SupersededBySurvivor memories tenantId sessionId loser := by
  simp only [stillSuperseded, any_eq_true, Bool.and_eq_true, beq_iff_eq]
  refine exists_congr fun winner => ?_
  rw [← mem_marked_live_iff outdatedIff]
  tauto

theorem stillContradicted_iff : stillContradicted (memories.modify (fun row => row.id ∈ outdated)
        (moveTo .outdated) (moveTo_id .outdated)) conflicts tenantId
        loser.id = true ↔
      BlockedByQuery memories conflicts tenantId sessionId loser := by
  simp only [stillContradicted, any_eq_true, Bool.and_eq_true, beq_iff_eq,
    Option.any_eq_true, Table.lookup_eq_some_iff]
  constructor
  · rintro ⟨record, recordMem, ⟨recordTenant, oldEq⟩, winner, ⟨winnerMem, newEq⟩, isLive⟩
    exact ⟨winner, (mem_marked_live_iff outdatedIff).mp ⟨winnerMem, isLive⟩,
      record, recordMem, recordTenant, newEq.symm, oldEq⟩
  · rintro ⟨winner, survives, record, recordMem, recordTenant, newEq, oldEq⟩
    obtain ⟨winnerMem, isLive⟩ := (mem_marked_live_iff outdatedIff).mpr survives
    exact ⟨record, recordMem, ⟨recordTenant, oldEq⟩, winner, ⟨winnerMem, newEq.symm⟩, isLive⟩

theorem heldDown_iff : heldDown (memories.modify (fun row => row.id ∈ outdated)
        (moveTo .outdated) (moveTo_id .outdated)) conflicts tenantId outdated
        loser.id = true ↔
      ReachedByQuery memories conflicts tenantId sessionId loser := by
  simp only [heldDown, Bool.or_eq_true, any_eq_true, Bool.and_eq_true, beq_iff_eq, contains_iff_mem]
  constructor
  · rintro (⟨successor, successorMem, ⟨_, moved⟩, edge⟩ |
      ⟨record, recordMem, ⟨recordTenant, moved⟩, oldEq⟩)
    · obtain ⟨before, beforeMem, rfl⟩ := Table.mem_modify_iff.mp successorMem
      by_cases beforeMoved : before.id ∈ outdated
      · simp only [beforeMoved] at edge
        exact ⟨before, (id_mem_outdated_iff outdatedIff beforeMem).mp beforeMoved, .inl edge⟩
      · simp [beforeMoved] at moved
    · obtain ⟨winner, rolledBack, winnerId⟩ := (outdatedIff _).mp moved
      exact ⟨winner, rolledBack, .inr ⟨record, recordMem, recordTenant, winnerId.symm, oldEq⟩⟩
  · rintro ⟨winner, rolledBack, edge | ⟨record, recordMem, recordTenant, newEq, oldEq⟩⟩
    · have moved := (id_mem_outdated_iff outdatedIff rolledBack.mem).mpr rolledBack
      refine .inl ⟨moveTo .outdated winner, ?_, ⟨rolledBack.tenantId_eq, moved⟩, edge⟩
      exact mem_modify_iff.mpr ⟨winner, rolledBack.mem, by simp [moved]⟩
    · exact .inr ⟨record, recordMem,
        ⟨recordTenant, (outdatedIff _).mpr ⟨winner, rolledBack, newEq.symm⟩⟩, oldEq⟩

end Restore

/-! ## What becomes of a row the session beat -/

/-- The row carries a demotion, the session did not write it, and something the
session wrote beats it. -/
structure DemotedBySession (memories : Memories) (conflicts : Conflicts)
    (tenantId sessionId : String) (loser : Row) : Prop where
  mem : loser ∈ memories
  tenantId_eq : loser.tenantId = tenantId
  undeleted : loser.deletedAt = none
  contradicted : loser.contradicted = true
  notWritten : ¬ WrittenBy memories tenantId sessionId loser
  beaten : ∃ winner, WrittenBy memories tenantId sessionId winner ∧
    Defeats conflicts tenantId winner loser

namespace DemotedBySession

section

variable (demoted : DemotedBySession memories conflicts tenantId sessionId loser)

include demoted

theorem sessionId_ne : loser.sessionId ≠ some sessionId := fun sessionEq =>
  demoted.notWritten (.seed demoted.mem (by simp [demoted.tenantId_eq, sessionEq]))

theorem not_rolledBack : ¬ RolledBack memories tenantId sessionId loser := fun rolledBack =>
  demoted.notWritten rolledBack.writtenBy

theorem restoredWhere_iff (outdatedIff : ∀ id, id ∈ outdated ↔
      ∃ row, RolledBack memories tenantId sessionId row ∧ row.id = id) :
    restoredWhere (memories.modify (fun row => row.id ∈ outdated)
        (moveTo .outdated) (moveTo_id .outdated)) conflicts tenantId sessionId
        outdated loser = true ↔
      ReachedByQuery memories conflicts tenantId sessionId loser ∧
        ¬ SupersededBySurvivor memories tenantId sessionId loser ∧
        ¬ BlockedByQuery memories conflicts tenantId sessionId loser := by
  have unmoved : loser.id ∉ outdated :=
    mt (id_mem_outdated_iff outdatedIff demoted.mem).mp demoted.not_rolledBack
  rw [← heldDown_iff outdatedIff, ← stillSuperseded_iff outdatedIff,
    ← stillContradicted_iff outdatedIff]
  simp [restoredWhere, demoted.tenantId_eq, demoted.undeleted,
    demoted.contradicted, demoted.sessionId_ne, unmoved, and_assoc]

end

end DemotedBySession

/-- Rejecting what is held leaves every other row as it is. -/
theorem lookup_rejectHeld {id : Uuid} (found : memories.lookup id = some row)
    (notHeld : row.status ≠ .quarantined) (now : Timestamp) (tenantId sessionId : String) :
    (rejectHeld now memories tenantId sessionId).1.lookup id = some row := by
  unfold rejectHeld Table.update
  split
  next written cancelled writtenEq =>
    cases writtenEq
    split
    · rw [lookup_modify, found]
      simp [notHeld]
    · rw [lookup_modify, lookup_modify, found]
      simp [notHeld]

/-- The restoring query finds nothing when nothing was outdated. -/
theorem lookup_restoreHeldDown (memories : Memories) (conflicts : Conflicts)
    (tenantId sessionId : String) (outdated : List Uuid) (id : Uuid) :
    (restoreHeldDown memories conflicts tenantId sessionId outdated).1.lookup id =
      (memories.lookup id).map fun row =>
        if restoredWhere memories conflicts tenantId sessionId outdated row then
          moveTo .active row
        else row := by
  unfold restoreHeldDown
  split
  next isEmpty =>
    have nothing : ∀ row,
        restoredWhere memories conflicts tenantId sessionId outdated row = false := by
      intro row
      simp [restoredWhere, heldDown, isEmpty_iff.mp isEmpty]
    simp [nothing]
  · exact lookup_modify _ _ _ (moveTo_id .active) _

theorem memoryRollbackSession_eq {marked : Memories}
    (outdateEq : outdateSession memories tenantId sessionId = some (marked, outdated))
    (now : Timestamp) (conflicts : Conflicts) :
    memoryRollbackSession now memories conflicts tenantId sessionId =
      let recovered :=
        restoreHeldDown marked conflicts tenantId sessionId outdated
      let final := rejectHeld now recovered.1 tenantId sessionId
      some ⟨final.1, outdated, recovered.2, final.2⟩ := by
  rw [memoryRollbackSession, outdateEq]
  rfl

/-- The rollback ends, and a row the session beat is active afterwards exactly
when the restoring query selects it. -/
theorem DemotedBySession.active_iff {conflicts : Conflicts} {loser : Row}
    (demoted : DemotedBySession memories conflicts tenantId sessionId loser) (now : Timestamp) :
    ∃ result, memoryRollbackSession now memories conflicts tenantId sessionId = some result ∧
      (HasStatus result.memories loser.id .active ↔
        ReachedByQuery memories conflicts tenantId sessionId loser ∧
          ¬ SupersededBySurvivor memories tenantId sessionId loser ∧
          ¬ BlockedByQuery memories conflicts tenantId sessionId loser) := by
  rcases outdateSession_spec with
    ⟨outdated, outdateEq, outdatedIff⟩
  have markedFound : (memories.modify (fun row => row.id ∈ outdated)
      (moveTo .outdated) (moveTo_id .outdated)).lookup loser.id = some loser := by
    have unmoved : loser.id ∉ outdated :=
      mt (id_mem_outdated_iff outdatedIff demoted.mem).mp demoted.not_rolledBack
    rw [lookup_modify, lookup_key demoted.mem]
    simp [unmoved]
  rcases Row.status_ne_of_contradicted demoted.contradicted with
    ⟨notHeld, notActive, _⟩
  refine ⟨_, memoryRollbackSession_eq outdateEq now conflicts, ?_⟩
  rw [← demoted.restoredWhere_iff outdatedIff]
  have recoveredFound := lookup_restoreHeldDown (memories.modify
    (fun row => row.id ∈ outdated) (moveTo .outdated) (moveTo_id .outdated))
    conflicts tenantId sessionId outdated loser.id
  rw [markedFound, Option.map_some] at recoveredFound
  split at recoveredFound
  next restored =>
    have final := lookup_rejectHeld recoveredFound (by simp [moveTo]) now tenantId sessionId
    exact iff_of_true ⟨_, final, rfl⟩ restored
  next kept =>
    have final := lookup_rejectHeld recoveredFound notHeld now tenantId sessionId
    refine iff_of_false ?_ kept
    rintro ⟨row, found, isActive⟩
    rw [final] at found
    cases found
    exact notActive isActive

/-- A rollback gives a row the session beat back exactly when no surviving row
still beats it, for exactly these stores: a survivor's edge names the row, or
the one orientation in which the query reads records, dismissed ones and disputes
included, shows it the same losses as the verdicts that stand. -/
theorem rollback_restores_unbeaten_iff {memories : Memories}
    {conflicts : Conflicts} {tenantId sessionId : String} {loser : Row}
    (demoted : DemotedBySession memories conflicts tenantId sessionId loser)
    (now : Timestamp) :
    ∃ result, memoryRollbackSession now memories conflicts tenantId sessionId = some result ∧
      ((HasStatus result.memories loser.id .active ↔
          ¬ StillBeaten memories conflicts tenantId sessionId loser) ↔
        SupersededBySurvivor memories tenantId sessionId loser ∨
          (BlockedByQuery memories conflicts tenantId sessionId loser →
            LostToSurvivor memories conflicts tenantId sessionId loser) ∧
          (LostToSurvivor memories conflicts tenantId sessionId loser →
            ReachedByQuery memories conflicts tenantId sessionId loser →
            BlockedByQuery memories conflicts tenantId sessionId loser) ∧
          (ReachedByQuery memories conflicts tenantId sessionId loser ∨
            LostToSurvivor memories conflicts tenantId sessionId loser)) := by
  obtain ⟨result, resultEq, activeIff⟩ := demoted.active_iff now
  refine ⟨result, resultEq, ?_⟩
  rw [stillBeaten_iff]
  grind

/-! ## One session, with and without a rival -/

/-- An outdated memory. -/
def lostRow : Row :=
  { id := .ofNat 1, tenantId := "t", agentId := "a", status := .outdated,
    createdAt := some 10 }

/-- The session's memory that replaced it. -/
def sessionRow : Row :=
  { id := .ofNat 2, tenantId := "t", agentId := "a", createdAt := some 20,
    sessionId := some "s", supersedesId := some (.ofNat 1) }

/-- A newer memory of nobody's session. -/
def rivalRow : Row :=
  { id := .ofNat 3, tenantId := "t", agentId := "b", createdAt := some 30 }

/-- The session's write and what it replaced. -/
def sessionStore : Memories :=
  ⟨[lostRow, sessionRow], by decide⟩

/-- The rival is there too. -/
def rivalStore : Memories :=
  ⟨[lostRow, sessionRow, rivalRow], by decide⟩

/-- Detection ran for the older memory and recorded that it lost to the rival. -/
def rivalRecord : Conflicts :=
  ⟨[{ id := .ofNat 7, tenantId := "t", newMemoryId := .ofNat 1,
      oldMemoryId := .ofNat 3, effectApplied := some true, createdAt := 31 }],
    by decide⟩

theorem not_writtenBy {memories : Memories} {row : Row} (unseeded : row.sessionId = none)
    (underived : ∀ parent, ¬ DerivedFrom parent row) : ¬ WrittenBy memories "t" "s" row := by
  intro written
  cases written with
  | seed _ seeded => simp [unseeded] at seeded
  | derived _ _ _ isChild => exact underived _ isChild

theorem lostRow_demoted {memories : Memories} {conflicts : Conflicts} (lost : lostRow ∈ memories)
    (session : sessionRow ∈ memories) :
    DemotedBySession memories conflicts "t" "s" lostRow where
  mem := lost
  tenantId_eq := rfl
  undeleted := rfl
  contradicted := rfl
  notWritten := not_writtenBy rfl (by simp [DerivedFrom, lostRow])
  beaten := ⟨sessionRow, .seed session (by decide), .inl rfl⟩

/-- Without a rival, the memory comes back. -/
theorem rollback_restores_lostRow : ∃ result,
      memoryRollbackSession 40 sessionStore .empty "t" "s" = some result ∧
        HasStatus result.memories lostRow.id .active ∧
          ¬ StillBeaten sessionStore .empty "t" "s" lostRow := by
  have session : sessionRow ∈ sessionStore := .tail _ (.head _)
  have reached : ReachedByQuery sessionStore .empty "t" "s" lostRow :=
    ⟨sessionRow, .seed session (by decide), .inl rfl⟩
  have notLost : ¬ LostToSurvivor sessionStore .empty "t" "s" lostRow := by
    rintro ⟨_, _, _, _, record, recordMem, _⟩
    exact not_mem_nil recordMem
  have notBlocked : ¬ BlockedByQuery sessionStore .empty "t" "s" lostRow := by
    rintro ⟨_, _, record, recordMem, _⟩
    exact not_mem_nil recordMem
  obtain ⟨result, resultEq, iff⟩ :=
    rollback_restores_unbeaten_iff (lostRow_demoted (.head _) session) 40
  cases resultEq
  have restores := iff.mpr (.inr ⟨fun blocked => absurd blocked notBlocked,
    fun lost => absurd lost notLost, .inl reached⟩)
  exact ⟨_, rfl, ⟨_, rfl, rfl⟩, restores.mp ⟨_, rfl, rfl⟩⟩

/-- The record that names the memory on its newer side is not seen: the memory
comes back although the live rival still beats it. -/
theorem rollback_restores_beaten_row : DemotedBySession rivalStore rivalRecord "t" "s" lostRow ∧
      StillBeaten rivalStore rivalRecord "t" "s" lostRow ∧
      ∃ result, memoryRollbackSession 40 rivalStore rivalRecord "t" "s" = some result ∧
          HasStatus result.memories lostRow.id .active := by
  refine ⟨lostRow_demoted (.head _) (.tail _ (.head _)), ?_, _, rfl, ⟨_, rfl, rfl⟩⟩
  refine ⟨rivalRow, ⟨by simp [mem_def, rivalStore], rfl, ?_⟩, rfl, .inr (by decide)⟩
  exact fun rolledBack =>
    not_writtenBy rfl (by simp [DerivedFrom, rivalRow]) rolledBack.writtenBy

end Caura.Memory
