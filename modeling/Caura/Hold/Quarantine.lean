import Caura.Contradiction.UndoWrites
import Caura.Hold.Patch
import Caura.Transition.Core

/-!
# Who moves a held memory

A held memory waits in quarantine for a person, and leaves with the chunks cut
from it.  Five writers may change a status: the generic patch, the guarded status
write, the edge write, the retracting route and the rollback of a session.  Each is
one transaction that rewrites rows in place, so a run is a sequence of tables, and
the rule is about every step of it: `HoldRespected`.

The status write, the edge write, the retraction and the rollback respect the rule
from every table.  The patch reads no status, so it respects the rule exactly when
it leaves the held rows it touches as they are and holds no other.
-/

namespace Caura.Hold

open Caura.Relation Caura.Value Caura.Memory Caura.Contradiction Caura.Transition
open Function StatusWrite Option Table

/-! ## Writers -/

/-- A call of one of the writers. -/
inductive Event where
  | update (call : UpdateCall)
  | updateStatus (now : Timestamp) (memoryId : Uuid) (tenantId : String)
      (write : StatusWrite)
  | setSupersedesIfNull (memoryId supersedesId : Uuid) (tenantId : String)
  | retract (memoryId : Uuid) (status : Status) (tenantId : String) (expected : Uuid)
  | rollback (now : Timestamp) (conflicts : Conflicts) (tenantId sessionId : String)

/-- The table a call leaves. -/
def next (surroundings : Surroundings) (memories : Memories) : Event → Memories
  | .update call => (memoryUpdate surroundings memories call).1
  | .updateStatus now memoryId tenantId write =>
    (memoryUpdateStatus now memories memoryId tenantId write).1
  | .setSupersedesIfNull memoryId supersedesId tenantId =>
    (memorySetSupersedesIfNull memories memoryId supersedesId tenantId).1
  | .retract memoryId status tenantId expected =>
    (retractSupersedes memories memoryId status tenantId expected).1
  | .rollback now conflicts tenantId sessionId =>
    match memoryRollbackSession now memories conflicts tenantId sessionId with
    | some rollback => rollback.memories
    | none => memories

/-- The calls as a transition; each of them answers. -/
def step (surroundings : Surroundings) : Step Memories Event :=
  fun memories event => some (next surroundings memories event)

/-! ## The rule -/

/-- The row is live and in quarantine. -/
def held (row : Row) : Bool :=
  row.deletedAt.isNone && row.status == .quarantined

theorem held_iff {row : Row} :
    held row = true ↔ row.deletedAt = none ∧ row.status = .quarantined := by
  simp [held]

/-- The call is a person's decision on the row: a release or reject that names it,
or the rollback of its session. -/
def Event.Releases (row : Row) : Event → Prop
  | .updateStatus _ memoryId tenantId write =>
    write.releaseHold = true ∧ row.id = memoryId ∧ row.tenantId = tenantId
  | .rollback _ _ tenantId sessionId => row.tenantId = tenantId ∧ row.sessionId = some sessionId
  | _ => False

/-- The row is a held chunk cut from the parent. -/
def HeldChunk (parent chunk : Row) : Prop :=
  held chunk = true ∧ chunk.tenantId = parent.tenantId ∧ DerivedFrom parent.id chunk

/-- The call decides on the row, or on the held row it was cut from. -/
def Event.Decides (memories : Memories) (event : Event) (row : Row) : Prop :=
  event.Releases row ∨
    ∃ parent ∈ memories, held parent = true ∧ event.Releases parent ∧
      HeldChunk parent row

/-- The rule for one call: a held row stays and leaves quarantine only by a decision on it,
the held chunks of a row decided on get its status with it, and no row that is not held
becomes so. -/
structure HoldRespected (surroundings : Surroundings) (memories : Memories)
    (event : Event) : Prop where
  leaves : ∀ row ∈ memories, held row = true → ∃ after,
    (next surroundings memories event).lookup row.id = some after ∧
      (held after = true ∨ event.Decides memories row)
  together : ∀ parent ∈ memories, held parent = true → event.Releases parent →
    ∀ chunk ∈ memories, HeldChunk parent chunk → ∃ parentAfter chunkAfter,
      (next surroundings memories event).lookup parent.id = some parentAfter ∧
      (next surroundings memories event).lookup chunk.id = some chunkAfter ∧
        chunkAfter.status = parentAfter.status ∧
          chunkAfter.deletedAt = parentAfter.deletedAt
  enters : ∀ after ∈ next surroundings memories event, held after = true →
    ∃ row ∈ memories, row.id = after.id ∧ held row = true

section Rule

variable {surroundings : Surroundings} {memories : Memories} {event : Event}
  {effect : Row → Row}

section

variable (rewrites : memories.Rewrites (next surroundings memories event) effect)

include rewrites

/-- The rule in terms of what the call does to each row. -/
theorem holdRespected_iff :
    HoldRespected surroundings memories event ↔ (∀ row ∈ memories, held row = true →
        held (effect row) = true ∨ event.Decides memories row) ∧
      (∀ parent ∈ memories, held parent = true → event.Releases parent →
        ∀ chunk ∈ memories, HeldChunk parent chunk →
          (effect chunk).status = (effect parent).status ∧
            (effect chunk).deletedAt = (effect parent).deletedAt) ∧
      ∀ row ∈ memories, held (effect row) = true → held row = true := by
  constructor
  · rintro ⟨leaves, together, enters⟩
    refine ⟨?_, ?_, ?_⟩
    · intro row rowMem isHeld
      obtain ⟨after, found, left⟩ := leaves row rowMem isHeld
      cases (rewrites.lookup_key rowMem).symm.trans found
      exact left
    · intro parent parentMem isHeld releases chunk chunkMem isChunk
      obtain ⟨parentAfter, chunkAfter, parentFound, chunkFound, same⟩ :=
        together parent parentMem isHeld releases chunk chunkMem isChunk
      cases (rewrites.lookup_key parentMem).symm.trans parentFound
      cases (rewrites.lookup_key chunkMem).symm.trans chunkFound
      exact same
    · intro row rowMem isHeld
      obtain ⟨afterMem, sameId⟩ := lookup_eq_some_iff.mp (rewrites.lookup_key rowMem)
      obtain ⟨before, beforeMem, idEq, wasHeld⟩ := enters _ afterMem isHeld
      rwa [eq_of_key_eq rowMem beforeMem (sameId.symm.trans idEq.symm)]
  · rintro ⟨leaves, together, enters⟩
    constructor
    · intro row rowMem isHeld
      exact ⟨_, rewrites.lookup_key rowMem, leaves row rowMem isHeld⟩
    · intro parent parentMem isHeld releases chunk chunkMem isChunk
      exact ⟨_, _, rewrites.lookup_key parentMem, rewrites.lookup_key chunkMem,
        together parent parentMem isHeld releases chunk chunkMem isChunk⟩
    · intro after afterMem isHeld
      obtain ⟨row, rowMem, rfl⟩ := rewrites.exists_of_mem afterMem
      exact ⟨row, rowMem, (lookup_eq_some_iff.mp (rewrites.lookup_key rowMem)).2.symm,
        enters row rowMem isHeld⟩

/-- A call that leaves every held row as it is and holds no other respects the
rule. -/
theorem holdRespected_of_keeps (keeps : ∀ row ∈ memories, held row = true →
      (effect row).status = row.status ∧ (effect row).deletedAt = row.deletedAt)
    (enters : ∀ row ∈ memories, held (effect row) = true → held row = true) :
    HoldRespected surroundings memories event := by
  refine (holdRespected_iff rewrites).mpr ⟨?_, ?_, enters⟩
  · intro row rowMem isHeld
    obtain ⟨statusEq, deletedEq⟩ := keeps row rowMem isHeld
    rw [held_iff] at isHeld ⊢
    exact .inl ⟨deletedEq.trans isHeld.1, statusEq.trans isHeld.2⟩
  · intro parent parentMem isHeld _ chunk chunkMem isChunk
    obtain ⟨parentStatus, parentDeleted⟩ := keeps parent parentMem isHeld
    obtain ⟨chunkStatus, chunkDeleted⟩ := keeps chunk chunkMem isChunk.1
    rw [held_iff] at isHeld
    have chunkHeld := held_iff.mp isChunk.1
    rw [parentStatus, parentDeleted, chunkStatus, chunkDeleted, isHeld.1, isHeld.2]
    exact ⟨chunkHeld.2, chunkHeld.1⟩

end

/-- So does an update that selects no held row and holds none. -/
theorem holdRespected_of_modify {condition : Row → Bool} {change : Row → Row}
    {keeps : ∀ row, (change row).id = row.id}
    (written : next surroundings memories event = memories.modify condition change keeps)
    (unheld : ∀ row, condition row = true → row.status ≠ .quarantined)
    (exits : ∀ row, (change row).status ≠ .quarantined) :
    HoldRespected surroundings memories event := by
  have rewrites := Table.Rewrites.modify memories condition change keeps
  rw [← written] at rewrites
  refine holdRespected_of_keeps rewrites ?_ ?_
  · intro row _ isHeld
    rw [if_neg fun selected => unheld row selected (held_iff.mp isHeld).2]
    exact ⟨rfl, rfl⟩
  · intro row _ isHeld
    split at isHeld
    · exact absurd (held_iff.mp isHeld).2 (exits row)
    · exact isHeld

/-- And a call that is refused. -/
theorem holdRespected_of_unchanged (unchanged : next surroundings memories event = memories) :
    HoldRespected surroundings memories event := by
  have rewrites := Table.Rewrites.refl memories
  nth_rewrite 2 [← unchanged] at rewrites
  exact holdRespected_of_keeps rewrites (fun _ _ _ => ⟨rfl, rfl⟩) fun _ _ isHeld => isHeld

end Rule

/-! ## The guarded writers -/

section Writers

variable {surroundings : Surroundings} {memories : Memories} {now : Timestamp}
  {memoryId supersedesId expected : Uuid} {status : Status} {tenantId sessionId : String}
  {write : StatusWrite} {conflicts : Conflicts}

theorem setSupersedesIfNull_respected :
    HoldRespected surroundings memories (.setSupersedesIfNull memoryId supersedesId tenantId) := by
  have rewrites : memories.Rewrites (next surroundings memories
      (.setSupersedesIfNull memoryId supersedesId tenantId)) _ :=
    lookup_memorySetSupersedesIfNull memories memoryId supersedesId tenantId
  refine holdRespected_of_keeps rewrites ?_ ?_
  · intro row _ _
    split <;> exact ⟨rfl, rfl⟩
  · intro row _ isHeld
    split at isHeld <;> exact isHeld

theorem retract_respected :
    HoldRespected surroundings memories (.retract memoryId status tenantId expected) := by
  by_cases holds : status = .quarantined
  · apply holdRespected_of_unchanged
    simp [next, retractSupersedes, holds]
  · have written : next surroundings memories (.retract memoryId status tenantId expected) =
        memories.modify (retractable memoryId tenantId expected) (unlinkAs status)
          (unlinkAs_id status) := by
      simp [next, retractSupersedes, holds]
    refine holdRespected_of_modify written (fun row selected isHeld => ?_) fun _ => holds
    simp [retractable, Row.readable, isHeld] at selected

/-- Without a release the status write skips held rows and never holds one. -/
theorem updateStatus_respected_of_plain (plain : write.releaseHold = false) :
    HoldRespected surroundings memories (.updateStatus now memoryId tenantId write) := by
  by_cases holds : write.status = .quarantined
  · apply holdRespected_of_unchanged
    simp [next, memoryUpdateStatus, holds]
  by_cases inTenant : pointersInTenant memories tenantId write.pointer.toList = true
  · have written : next surroundings memories (.updateStatus now memoryId tenantId write) =
        memories.modify (write.selects memoryId tenantId) (write.change now)
          (write.change_id now) := by
      simp [next, memoryUpdateStatus, holds, plain, inTenant]
    refine holdRespected_of_modify written (fun row selected isHeld => ?_) fun _ => holds
    simp [selects, plain, isHeld] at selected
  · apply holdRespected_of_unchanged
    simp [next, memoryUpdateStatus, holds, plain, inTenant]

/-- What a release that moves its row does to each row. -/
def releaseEffect (now : Timestamp) (memoryId : Uuid) (tenantId : String)
    (write : StatusWrite) (row : Row) : Row :=
  if write.selects memoryId tenantId row then write.change now row
  else if selectsChunk memoryId tenantId row then write.changeChunk now row
  else row

/-- The chunk statement does not meet the row that the first one moved. -/
theorem rewrites_release (exit : write.status ≠ .quarantined) :
    memories.Rewrites ((memories.modify (write.selects memoryId tenantId) (write.change now)
        (write.change_id now)).modify (selectsChunk memoryId tenantId)
          (write.changeChunk now) (write.changeChunk_id now))
      (releaseEffect now memoryId tenantId write) := by
  refine Table.Rewrites.modify_modify (write.change_id now) (write.changeChunk_id now) ?_
  intro row _
  simp [selectsChunk, change, exit]

/-- A release that moves its row moves the held chunks of the row with it, and
nothing else. -/
theorem release_respected_of_moved (release : write.releaseHold = true)
    (exit : write.status ≠ .quarantined)
    (moved : memories.rows.any (write.selects memoryId tenantId) = true)
    (rewrites : memories.Rewrites
      (next surroundings memories (.updateStatus now memoryId tenantId write))
      (releaseEffect now memoryId tenantId write)) :
    HoldRespected surroundings memories (.updateStatus now memoryId tenantId write) := by
  obtain ⟨target, targetMem, targetSelected⟩ := List.any_eq_true.mp moved
  have ofSelected : ∀ row, write.selects memoryId tenantId row = true →
      held row = true ∧ row.id = memoryId ∧ row.tenantId = tenantId := by
    intro row selected
    simp only [selects, release, if_true, Bool.and_eq_true, beq_iff_eq,
      isNone_iff_eq_none] at selected
    exact ⟨held_iff.mpr ⟨selected.1.1.2, selected.1.2⟩, selected.1.1.1.1, selected.1.1.1.2⟩
  have ofChunk : ∀ row, selectsChunk memoryId tenantId row = true ↔
      held row = true ∧ row.tenantId = tenantId ∧ DerivedFrom memoryId row := by
    intro row
    simp only [selectsChunk, Bool.and_eq_true, beq_iff_eq, held_iff, isNone_iff_eq_none]
    tauto
  obtain ⟨targetHeld, targetId, targetTenant⟩ := ofSelected target targetSelected
  have isTarget : ∀ row ∈ memories, row.id = memoryId → row = target :=
    fun row rowMem idEq => eq_of_key_eq rowMem targetMem (idEq.trans targetId.symm)
  refine (holdRespected_iff rewrites).mpr ⟨?_, ?_, ?_⟩
  · intro row rowMem isHeld
    unfold releaseEffect
    split_ifs with selected chunk
    · obtain ⟨_, idEq, tenantEq⟩ := ofSelected row selected
      exact .inr (.inl ⟨release, idEq, tenantEq⟩)
    · obtain ⟨_, tenantEq, derived⟩ := (ofChunk row).mp chunk
      refine .inr (.inr ⟨target, targetMem, targetHeld,
        ⟨release, targetId, targetTenant⟩, isHeld, ?_, ?_⟩)
      · exact tenantEq.trans targetTenant.symm
      · rwa [targetId]
    · exact .inl isHeld
  · rintro parent parentMem _ ⟨_, parentId, parentTenant⟩ chunk chunkMem
      ⟨chunkHeld, chunkTenant, derived⟩
    cases isTarget parent parentMem parentId
    have parentLive := (held_iff.mp targetHeld).1
    have chunkLive := (held_iff.mp chunkHeld).1
    have chunkMeets : selectsChunk memoryId tenantId chunk = true := by
      refine (ofChunk chunk).mpr ⟨chunkHeld, chunkTenant.trans parentTenant, ?_⟩
      rwa [← parentId]
    by_cases selected : write.selects memoryId tenantId chunk = true
    · rw [isTarget chunk chunkMem (ofSelected chunk selected).2.1]
      exact ⟨rfl, rfl⟩
    · simp [releaseEffect, selected, chunkMeets, targetSelected, change,
        changeChunk, parentLive, chunkLive]
  · intro row rowMem isHeld
    unfold releaseEffect at isHeld
    split_ifs at isHeld
    · exact absurd (held_iff.mp isHeld).2 exit
    · exact absurd (held_iff.mp isHeld).2 exit
    · exact isHeld

theorem updateStatus_respected :
    HoldRespected surroundings memories (.updateStatus now memoryId tenantId write) := by
  by_cases release : write.releaseHold = true
  · by_cases holds : write.status = .quarantined
    · apply holdRespected_of_unchanged
      simp [next, memoryUpdateStatus, holds]
    by_cases accepted : write.status ∈ Status.quarantineExits ∧
        pointersInTenant memories tenantId write.pointer.toList = true
    · by_cases moved : memories.rows.any (write.selects memoryId tenantId) = true
      · apply release_respected_of_moved release holds moved
        simpa [next, memoryUpdateStatus, holds, release, accepted, moved] using
          rewrites_release holds
      · rw [Bool.not_eq_true] at moved
        apply holdRespected_of_unchanged
        simp only [next, memoryUpdateStatus, moved, Bool.false_and, Bool.false_eq_true,
          if_false, modify_eq_self _ moved]
        split_ifs <;> rfl
    · apply holdRespected_of_unchanged
      rw [not_and_or] at accepted
      rcases accepted with notExit | foreign
      · simp [next, memoryUpdateStatus, holds, release, notExit]
      · simp only [next, memoryUpdateStatus, foreign, Bool.not_false]
        split_ifs <;> rfl
  · exact updateStatus_respected_of_plain (Bool.not_eq_true _ ▸ release)

/-- The session's held rows. -/
def sessionHeld (tenantId sessionId : String) (row : Row) : Bool :=
  sessionRowsWhere tenantId sessionId row && row.status == .quarantined

variable {row : Row}

theorem sessionHeld_iff : sessionHeld tenantId sessionId row = true ↔
      held row = true ∧ row.tenantId = tenantId ∧ row.sessionId = some sessionId := by
  simp only [sessionHeld, sessionRowsWhere, Bool.and_eq_true, beq_iff_eq, held_iff,
    isNone_iff_eq_none]
  tauto

/-- The held rows derived from the given ones. -/
def chunkHeld (tenantId : String) (parents : List Uuid) (row : Row) : Bool :=
  derivedRowsWhere tenantId parents row && row.status == .quarantined

theorem chunkHeld_iff {parents : List Uuid} :
    chunkHeld tenantId parents row = true ↔ held row = true ∧ row.tenantId = tenantId ∧
        ∃ parent ∈ parents, DerivedFrom parent row := by
  simp only [chunkHeld, Bool.and_eq_true, derivedRowsWhere_iff, beq_iff_eq, held_iff]
  tauto

/-- What the rejecting statements of a rollback do to each row. -/
def rejectEffect (now : Timestamp) (tenantId sessionId : String)
    (cancelled : List Uuid) (row : Row) : Row :=
  if sessionHeld tenantId sessionId row then reject now row
  else if chunkHeld tenantId cancelled row then reject now row
  else row

theorem rewrites_rejectHeld (now : Timestamp) (tenantId sessionId : String) :
    memories.Rewrites (rejectHeld now memories tenantId sessionId).1
      (rejectEffect now tenantId sessionId
        ((memories.select (sessionHeld tenantId sessionId)).map Row.id)) := by
  have rejected := Table.Rewrites.modify memories (sessionHeld tenantId sessionId)
    (reject now) (reject_id now)
  have answered : (rejectHeld now memories tenantId sessionId).1 =
      if ((memories.select (sessionHeld tenantId sessionId)).map Row.id).isEmpty then
        memories.modify (sessionHeld tenantId sessionId) (reject now) (reject_id now)
      else
        (memories.modify (sessionHeld tenantId sessionId) (reject now)
          (reject_id now)).modify (chunkHeld tenantId
            ((memories.select (sessionHeld tenantId sessionId)).map Row.id))
              (reject now) (reject_id now) :=
    apply_ite Prod.fst _ _ _
  rw [answered]
  split_ifs with noneHeld
  · rw [List.isEmpty_iff.mp noneHeld]
    have noChunks : rejectEffect now tenantId sessionId [] = fun row =>
        if sessionHeld tenantId sessionId row then reject now row else row := by
      funext row
      simp [rejectEffect, chunkHeld, derivedRowsWhere]
    rwa [noChunks]
  · refine Table.Rewrites.modify_modify (reject_id now) (reject_id now) ?_
    intro row _
    simp [chunkHeld, reject]

/-- The restoring statement leaves held rows as they are and holds none. -/
theorem restoreHeldDown_spec {outdated : List Uuid} : ∃ effect, memories.Rewrites
        (restoreHeldDown memories conflicts tenantId sessionId outdated).1 effect ∧
      (∀ row, held row = true → effect row = row) ∧
      ∀ row, held (effect row) = true → held row = true := by
  unfold restoreHeldDown
  split
  · exact ⟨id, Table.Rewrites.refl memories, fun _ _ => rfl, fun _ isHeld => isHeld⟩
  · refine ⟨_, Table.Rewrites.modify memories _ (moveTo .active) (moveTo_id .active), ?_, ?_⟩
    · intro row isHeld
      have status := (held_iff.mp isHeld).2
      simp [restoredWhere, Row.contradicted, Status.contradicted, status]
    · intro row isHeld
      split at isHeld
      · simp [held, moveTo] at isHeld
      · exact isHeld

/-- The rows that the first two passes of a rollback leave: held rows as they were,
and no other row held. -/
theorem recover_spec (memories : Memories) :
    ∃ marked outdated effect, outdateSession memories tenantId sessionId = some (marked, outdated) ∧
      memories.Rewrites (restoreHeldDown marked conflicts tenantId sessionId outdated).1 effect ∧
      (∀ row ∈ memories, held row = true → effect row = row) ∧
      ∀ row, held (effect row) = true → held row = true := by
  rcases outdateSession_spec with
    ⟨outdated, markedEq, outdatedIff⟩
  rcases restoreHeldDown_spec with ⟨restore, restores, keeps, enters⟩
  refine ⟨_, outdated, _, markedEq, (Table.Rewrites.modify memories _ _ _).trans restores, ?_, ?_⟩
  · intro row rowMem isHeld
    have stays : row.id ∉ outdated := by
      intro moved
      have wasLive := ((id_mem_outdated_iff outdatedIff rowMem).mp moved).liveStatus
      simp [liveStatus, Status.live, (held_iff.mp isHeld).2] at wasLive
    simp only [comp_apply, stays]
    exact keeps row isHeld
  · intro row isHeld
    have wasHeld := enters _ isHeld
    dsimp only at wasHeld
    split at wasHeld
    · simp [held, moveTo] at wasHeld
    · exact wasHeld

theorem rollback_respected :
    HoldRespected surroundings memories (.rollback now conflicts tenantId sessionId) := by
  rcases recover_spec memories with ⟨marked, outdated, effect, markedEq, rewrites, keeps, enters⟩
  generalize recoveredEq :
    (restoreHeldDown marked conflicts tenantId sessionId outdated).1 = recovered at rewrites
  have answered : next surroundings memories (.rollback now conflicts tenantId sessionId) =
        (rejectHeld now recovered tenantId sessionId).1 := by
    simp [next, memoryRollbackSession, markedEq, recoveredEq]
  have whole := rewrites.trans (rewrites_rejectHeld now tenantId sessionId)
  rw [← answered] at whole
  -- The rows that the rejecting statement names are held rows of the table before.
  have cancelledIff : ∀ id, id ∈ (recovered.select (sessionHeld tenantId sessionId)).map Row.id ↔
        ∃ parent ∈ memories, parent.id = id ∧ sessionHeld tenantId sessionId parent = true := by
    intro id
    simp only [List.mem_map, mem_select_iff]
    constructor
    · rintro ⟨row, ⟨rowMem, ofSession⟩, idEq⟩
      obtain ⟨parent, parentMem, rfl⟩ := rewrites.exists_of_mem rowMem
      have parentHeld := enters parent (sessionHeld_iff.mp ofSession).1
      rw [keeps parent parentMem parentHeld] at ofSession idEq
      exact ⟨parent, parentMem, idEq, ofSession⟩
    · rintro ⟨parent, parentMem, idEq, ofSession⟩
      have found := rewrites.lookup_key parentMem
      rw [keeps parent parentMem (sessionHeld_iff.mp ofSession).1] at found
      exact ⟨parent, ⟨(lookup_eq_some_iff.mp found).1, ofSession⟩, idEq⟩
  refine (holdRespected_iff whole).mpr ⟨?_, ?_, ?_⟩
  · intro row rowMem isHeld
    rw [comp_apply, keeps row rowMem isHeld]
    unfold rejectEffect
    split_ifs with ofSession ofParent
    · obtain ⟨_, tenantEq, sessionEq⟩ := sessionHeld_iff.mp ofSession
      exact .inr (.inl ⟨tenantEq, sessionEq⟩)
    · obtain ⟨_, tenantEq, parentId, parentMem, derived⟩ := chunkHeld_iff.mp ofParent
      obtain ⟨parent, inTable, rfl, ofSession⟩ := (cancelledIff parentId).mp parentMem
      obtain ⟨parentHeld, parentTenant, parentSession⟩ := sessionHeld_iff.mp ofSession
      exact .inr (.inr ⟨parent, inTable, parentHeld, ⟨parentTenant, parentSession⟩,
        isHeld, tenantEq.trans parentTenant.symm, derived⟩)
    · exact .inl isHeld
  · rintro parent parentMem parentHeld ⟨parentTenant, parentSession⟩ chunk chunkMem
      ⟨chunkIsHeld, chunkTenant, derived⟩
    have ofSession : sessionHeld tenantId sessionId parent = true :=
      sessionHeld_iff.mpr ⟨parentHeld, parentTenant, parentSession⟩
    have ofParent := chunkHeld_iff.mpr ⟨chunkIsHeld, chunkTenant.trans parentTenant,
      parent.id, (cancelledIff parent.id).mpr ⟨parent, parentMem, rfl, ofSession⟩, derived⟩
    rw [comp_apply, comp_apply, keeps parent parentMem parentHeld, keeps chunk chunkMem chunkIsHeld]
    simp only [rejectEffect, ofSession, ofParent, if_true, ite_self]
    exact ⟨rfl, rfl⟩
  · intro row rowMem isHeld
    rw [comp_apply] at isHeld
    unfold rejectEffect at isHeld
    split_ifs at isHeld
    · simp [held, reject] at isHeld
    · simp [held, reject] at isHeld
    · exact enters row isHeld

end Writers

/-! ## The patch -/

namespace UpdateCall

variable (call : UpdateCall) (memories : Memories)

/-- The rows that the patch deletes with the text they were derived from: the
children of the memory, and the rows derived from those. -/
def removes (row : Row) : Bool :=
  (call.patch.derived.any DerivedChange.softDeleteChildren) &&
    (derivedRowsWhere call.tenantId [call.memoryId] row || derivedRowsWhere call.tenantId
        ((memories.select (derivedRowsWhere call.tenantId [call.memoryId])).map Row.id) row)

/-- The status and the deletion time that the statements leave on a row. -/
def outcome (row : Row) : Status × Option Timestamp :=
  if call.removes memories row then (.deleted, some call.now)
  else if call.selects row then
    (call.patch.status.getD row.status, call.patch.deletedAt.getD row.deletedAt)
  else (row.status, row.deletedAt)

/-- The effect of the derived rows' statements on the columns that the later
statements of the patch and the rule read. -/
def DerivedEffect (effect : Row → Row) : Prop :=
  ∀ row, (effect row).id = row.id ∧ (effect row).tenantId = row.tenantId ∧
    ((effect row).status, (effect row).deletedAt) =
      if call.removes memories row then (.deleted, some call.now)
      else (row.status, row.deletedAt)

theorem softDelete_spec {derived : DerivedChange} (derivedEq : call.patch.derived = some derived) :
    ∃ effect, memories.Rewrites (if derived.softDeleteChildren then
          softDeleteChildren call.now memories call.tenantId call.memoryId
        else memories) effect ∧ call.DerivedEffect memories effect := by
  split
  next deletes =>
    refine ⟨_, lookup_softDeleteChildren _ _ _ _, fun row => ?_⟩
    simp only [removes]
    split_ifs <;> simp_all [goneRow, editRemoves]
  next keeps =>
    refine ⟨id, Table.Rewrites.refl memories, fun row => ?_⟩
    simp [removes, derivedEq, keeps]

theorem derivedWrites_spec : ∃ effect, memories.Rewrites (call.derivedWrites memories) effect ∧
      call.DerivedEffect memories effect := by
  cases derivedEq : call.patch.derived with
  | none =>
    refine ⟨id, ?_, fun row => ?_⟩
    · simp only [derivedWrites, derivedEq]
      exact Table.Rewrites.refl memories
    · simp [removes, derivedEq]
  | some derived =>
    obtain ⟨effect, rewrites, spec⟩ := call.softDelete_spec memories derivedEq
    simp only [derivedWrites, derivedEq, changeDerivedRows]
    split
    next visibility _ =>
      split
      · exact ⟨effect, rewrites, spec⟩
      · refine ⟨_, rewrites.trans (Table.Rewrites.modify _ _ (narrowTo visibility)
          (narrowTo_id visibility)), fun row => ?_⟩
        rw [comp_apply]
        split <;> exact spec row
    · exact ⟨effect, rewrites, spec⟩

/-- The column statement meets the memory unless its own deletion came first. -/
theorem setColumns_outcome {effect : Row → Row}
    (spec : call.DerivedEffect memories effect) (row : Row) :
    let columns := if call.selects (effect row) then call.patch.setColumns (effect row)
      else effect row
    (columns.status, columns.deletedAt) = call.outcome memories row := by
  obtain ⟨idEq, tenantEq, after⟩ := spec row
  have selectsEq : call.selects (effect row) =
      (row.id == call.memoryId && row.tenantId == call.tenantId &&
        (effect row).deletedAt.isNone) := by
    rw [selects, idEq, tenantEq]
  unfold outcome
  cases removed : call.removes memories row with
  | true =>
    simp only [removed, if_true, Prod.mk.injEq] at after
    simp [selectsEq, after]
  | false =>
    simp only [removed, Bool.false_eq_true, if_false, Prod.mk.injEq] at after
    rw [after.2] at selectsEq
    have sameSelects : call.selects (effect row) = call.selects row := selectsEq
    rw [sameSelects]
    cases call.selects row with
    | true => simp [Patch.setColumns, after]
    | false => simp [after]

theorem writes_spec : ∃ effect, memories.Rewrites (call.writes memories) effect ∧
      ∀ row, ((effect row).status, (effect row).deletedAt) = call.outcome memories row := by
  obtain ⟨effect, rewrites, spec⟩ := call.derivedWrites_spec memories
  have columns := rewrites.trans (Table.Rewrites.modify _ call.selects
    call.patch.setColumns call.patch.setColumns_id)
  cases metadataEq : call.patch.metadataPatch with
  | none =>
    refine ⟨_, ?_, call.setColumns_outcome memories spec⟩
    simp only [writes, metadataEq]
    exact columns
  | some metadataPatch =>
    have merged := columns.trans (Table.Rewrites.modify _ call.selects
      metadataPatch.merge metadataPatch.merge_id)
    have written : ((call.derivedWrites memories).modify call.selects
        call.patch.setColumns call.patch.setColumns_id).modify call.selects
          metadataPatch.merge metadataPatch.merge_id = call.writes memories := by
      simp [writes, metadataEq]
    rw [written] at merged
    refine ⟨_, merged, fun row => ?_⟩
    rw [comp_apply]
    split <;> exact call.setColumns_outcome memories spec row

/-- The patch leaves the held rows it touches as they are, and holds no other. -/
structure KeepsHolds : Prop where
  children : ∀ row ∈ memories, held row = true → call.removes memories row = false
  target : ∀ row ∈ memories, call.selects row = true → call.removes memories row = false →
    (held row = true ↔ call.patch.status.getD row.status = .quarantined ∧
      call.patch.deletedAt.getD none = none)

/-- A patch that is carried out respects the rule exactly under these conditions. -/
theorem respected_iff {surroundings : Surroundings} {target : Row}
    (accepted : call.target surroundings memories = .ok (some target)) :
    HoldRespected surroundings memories (.update call) ↔ call.KeepsHolds memories := by
  obtain ⟨effect, rewrites, spec⟩ := call.writes_spec memories
  have written : call.writes memories = next surroundings memories (.update call) := by
    simp [next, memoryUpdate, accepted]
  rw [written] at rewrites
  rw [holdRespected_iff rewrites]
  have heldIff : ∀ row, held (effect row) = true ↔
      call.outcome memories row = (.quarantined, none) := by
    intro row
    rw [held_iff, ← spec, Prod.mk.injEq, and_comm]
  have live : ∀ row, call.selects row = true → row.deletedAt = none := by
    intro row selected
    simp only [selects, Bool.and_eq_true, isNone_iff_eq_none] at selected
    exact selected.2
  constructor
  · rintro ⟨leaves, _, enters⟩
    have stays : ∀ row ∈ memories, held row = true →
        call.outcome memories row = (.quarantined, none) := by
      intro row rowMem isHeld
      rcases leaves row rowMem isHeld with stillHeld | ⟨⟨⟩⟩ | ⟨_, _, _, ⟨⟩, _⟩
      exact (heldIff row).mp stillHeld
    constructor
    · intro row rowMem isHeld
      have after := stays row rowMem isHeld
      by_contra removed
      simp [outcome, Bool.not_eq_false _ ▸ removed] at after
    · intro row rowMem selected kept
      constructor
      · intro isHeld
        have after := stays row rowMem isHeld
        simpa [outcome, kept, selected, live row selected] using after
      · rintro ⟨status, deleted⟩
        apply enters row rowMem
        simp [heldIff, outcome, kept, selected, live row selected, status, deleted]
  · rintro ⟨children, patched⟩
    refine ⟨?_, ?_, ?_⟩
    · intro row rowMem isHeld
      have kept := children row rowMem isHeld
      refine .inl ((heldIff row).mpr ?_)
      by_cases selected : call.selects row = true
      · have conditions := (patched row rowMem selected kept).mp isHeld
        simpa [outcome, kept, selected, live row selected] using conditions
      · simp [outcome, kept, selected, held_iff.mp isHeld]
    · rintro _ _ _ ⟨⟩
    · intro row rowMem isHeld
      rw [heldIff, outcome] at isHeld
      split_ifs at isHeld with removed selected
      · cases congrArg Prod.fst isHeld
      · rw [live row selected, Prod.mk.injEq] at isHeld
        exact (patched row rowMem selected (Bool.not_eq_true _ ▸ removed)).mpr isHeld
      · rw [Prod.mk.injEq] at isHeld
        exact held_iff.mpr isHeld.symm

end UpdateCall

/-! ## Runs -/

/-- The condition on a call: a patch that is carried out leaves the held rows it
touches as they are, and holds no other. -/
def Event.KeepsHolds (surroundings : Surroundings) (memories : Memories) : Event → Prop
  | .update call =>
    ∀ target, call.target surroundings memories = .ok (some target) → call.KeepsHolds memories
  | _ => True

theorem holdRespected_iff_keepsHolds (surroundings : Surroundings) (memories : Memories)
    (event : Event) :
    HoldRespected surroundings memories event ↔ event.KeepsHolds surroundings memories := by
  cases event with
  | update call =>
    cases answer : call.target surroundings memories with
    | error refusal =>
      simp only [Event.KeepsHolds, answer, reduceCtorEq, false_imp_iff, implies_true, iff_true]
      apply holdRespected_of_unchanged
      simp [next, memoryUpdate, answer]
    | ok found =>
      cases found with
      | none =>
        simp only [Event.KeepsHolds, answer, Except.ok.injEq, reduceCtorEq,
          false_imp_iff, implies_true, iff_true]
        apply holdRespected_of_unchanged
        simp [next, memoryUpdate, answer]
      | some target =>
        rw [call.respected_iff memories answer]
        simp [Event.KeepsHolds, answer]
  | updateStatus now memoryId tenantId write =>
    exact iff_of_true updateStatus_respected trivial
  | setSupersedesIfNull memoryId supersedesId tenantId =>
    exact iff_of_true setSupersedesIfNull_respected trivial
  | retract memoryId status tenantId expected =>
    exact iff_of_true retract_respected trivial
  | rollback now conflicts tenantId sessionId =>
    exact iff_of_true rollback_respected trivial

/-- From every table, the steps of a run respect the hold exactly when its patches
leave the held rows they touch as they are and hold no other. -/
theorem holds_respected_iff (surroundings : Surroundings) (start : Memories) (events : List Event) :
    GuardedRun (step surroundings) (HoldRespected surroundings) start events ↔
      GuardedRun (step surroundings)
        (fun memories event => event.KeepsHolds surroundings memories) start events :=
  guardedRun_congr (holdRespected_iff_keepsHolds surroundings) start events

/-! ## A patch that releases -/

/-- A held memory. -/
def waitingRow : Row :=
  { id := .ofNat 1, tenantId := "t", agentId := "a", status := .quarantined,
    createdAt := some 10 }

/-- A table of it alone. -/
def waitingTable : Memories :=
  ⟨[waitingRow], by decide⟩

/-- A patch that sets the status of the memory. -/
def statusPatch (status : Status) : UpdateCall :=
  { now := 20, memoryId := .ofNat 1, tenantId := "t",
    patch := { status := some status } }

/-- No entities, and room for metadata. -/
def bareSurroundings : Surroundings :=
  { entityInTenant := fun _ _ => false, metadataFits := fun _ _ => true }

/-- The patch is accepted and makes a held memory active, which no person decided. -/
theorem patch_releases_held :
    (memoryUpdate bareSurroundings waitingTable (statusPatch .active)).2 = .ok true ∧
      ((memoryUpdate bareSurroundings waitingTable (statusPatch .active)).1.lookup
        (.ofNat 1)).map Row.status = some .active ∧
      ¬ GuardedRun (step bareSurroundings) (HoldRespected bareSurroundings) waitingTable
        [.update (statusPatch .active)] := by
  refine ⟨by decide, by decide, ?_⟩
  rintro ⟨respected, _⟩
  obtain ⟨after, found, left⟩ := respected.leaves waitingRow List.mem_cons_self (by decide)
  have moved : (next bareSurroundings waitingTable (.update (statusPatch .active))).lookup
      waitingRow.id = some { waitingRow with status := .active } := by
    decide
  cases moved.symm.trans found
  rcases left with stillHeld | ⟨⟨⟩⟩ | ⟨_, _, _, ⟨⟩, _⟩
  exact absurd stillHeld (by decide)

end Caura.Hold
