import Caura.Memory.Store

/-!
# What the storage writes do

Specification lemmas for the writes of `Caura.Memory.Store`, as reads after a
write in terms of reads before it.  `Row.fixed` collects the columns that no
status or edge write changes; `Reads` says that a row is a possibly stale
reading of a row that can still be read, which every such write preserves.
-/

namespace Caura.Memory

open Caura.Relation Caura.Value List Table

/-! ## Reads -/

variable {memories : Memories} {tenantId : String} {row : Row} {memoryId : Uuid}

theorem getMemory_eq_some_iff : getMemory memories memoryId tenantId = some row ↔
      memories.lookup memoryId = some row ∧ row.tenantId = tenantId ∧ row.readable = true := by
  simp [getMemory]

variable {target : Uuid}

theorem mem_findBySupersedesId_iff :
    row ∈ findBySupersedesId memories tenantId target ↔ row ∈ memories ∧ row.tenantId = tenantId ∧
        row.supersedesId = some target ∧ row.deletedAt = none := by
  simp [findBySupersedesId, and_assoc]

/-! ## Columns that writes keep -/

namespace Row

/-- The row without the columns that status and edge writes set. -/
def fixed (row : Row) : Row :=
  { row with
    status := .active
    verification := .unverified
    supersedesId := none }

variable {a b : Row}

theorem id_eq_of_fixed (fixedEq : a.fixed = b.fixed) : a.id = b.id := by
  change a.fixed.id = b.fixed.id
  rw [fixedEq]

theorem tenantId_eq_of_fixed (fixedEq : a.fixed = b.fixed) : a.tenantId = b.tenantId := by
  change a.fixed.tenantId = b.fixed.tenantId
  rw [fixedEq]

theorem createdAt_eq_of_fixed (fixedEq : a.fixed = b.fixed) : a.createdAt = b.createdAt := by
  change a.fixed.createdAt = b.fixed.createdAt
  rw [fixedEq]

/-- The row with another status. -/
def setStatus (status : Status) (row : Row) : Row :=
  { row with
    status := status
    verification := verificationOnStatusChange status row }

theorem setStatus_id (status : Status) (row : Row) : (row.setStatus status).id = row.id :=
  rfl

@[simp]
theorem fixed_setStatus (status : Status) (row : Row) : (row.setStatus status).fixed = row.fixed :=
  rfl

end Row

theorem Row.contradicted_iff :
    row.contradicted = true ↔ row.status = .outdated ∨ row.status = .conflicted := by
  simp [Row.contradicted, Status.contradicted]

/-- A demoted row is neither held for review nor active. -/
theorem Row.status_ne_of_contradicted (contradicted : row.contradicted = true) :
    row.status ≠ .quarantined ∧ row.status ≠ .active ∧ row.status ≠ .deleted := by
  rcases Row.contradicted_iff.mp contradicted with isOutdated | isConflicted
  · simp [isOutdated]
  · simp [isConflicted]

/-- A demoted row that is not deleted can be read. -/
theorem readable_of_contradicted (undeleted : row.deletedAt = none)
    (contradicted : row.contradicted = true) : row.readable = true := by
  simp [Row.readable, undeleted, (Row.status_ne_of_contradicted contradicted).1]

variable {status : Status}

theorem readable_setStatus (notHeld : status ≠ .quarantined) (readable : row.readable = true) :
    (row.setStatus status).readable = true := by
  simp only [Row.readable, Bool.and_eq_true, bne_iff_ne] at readable ⊢
  exact ⟨readable.1, notHeld⟩

@[simp]
theorem fixed_linkTo (target : Uuid) (row : Row) : (linkTo target row).fixed = row.fixed :=
  rfl

@[simp]
theorem fixed_unlinkAs (status : Status) (row : Row) : (unlinkAs status row).fixed = row.fixed :=
  rfl

/-- Which of two rows is older depends on columns that writes keep. -/
theorem older_of_fixed {a a' b b' : Row} (aFixed : a.fixed = a'.fixed)
    (bFixed : b.fixed = b'.fixed) : Older a b ↔ Older a' b' :=
  older_congr (Row.id_eq_of_fixed aFixed) (Row.id_eq_of_fixed bFixed)
    (Row.createdAt_eq_of_fixed aFixed) (Row.createdAt_eq_of_fixed bFixed)

/-- The table has a readable row of which `row` is a reading, possibly with a
status and an edge it no longer has. -/
def Reads (memories : Memories) (row : Row) : Prop :=
  ∃ current, memories.lookup row.id = some current ∧
    current.fixed = row.fixed ∧ current.readable = true

theorem reads_of_lookup (found : memories.lookup memoryId = some row)
    (readable : row.readable = true) :
    Reads memories row := by
  have idEq : row.id = memoryId := (lookup_eq_some_iff.mp found).2
  exact ⟨row, idEq ▸ found, rfl, readable⟩

/-- An update whose change keeps the fixed columns and readability keeps every
reading. -/
theorem Reads.modify (reads : Reads memories row) {condition : Row → Bool} {change : Row → Row}
    (keeps : ∀ row, (change row).id = row.id)
    (keepsFixed : ∀ row, (change row).fixed = row.fixed)
    (keepsReadable : ∀ row, row.readable = true → (change row).readable = true) :
    Reads (memories.modify condition change keeps) row := by
  obtain ⟨current, found, fixedEq, readable⟩ := reads
  refine ⟨if condition current then change current else current, ?_, ?_, ?_⟩
  · rw [lookup_modify, found, Option.map_some]
  · split
    · rw [keepsFixed, fixedEq]
    · exact fixedEq
  · split
    · exact keepsReadable current readable
    · exact readable

/-! ## Plain status writes -/

/-- The row a plain status write meets. -/
def writable (memoryId : Uuid) (tenantId : String) (row : Row) : Bool :=
  row.id == memoryId && row.tenantId == tenantId && row.readable

/-- The table after a plain status write. -/
def writeStatus (memories : Memories) (memoryId : Uuid) (tenantId : String)
    (status : Status) : Memories :=
  memories.modify (writable memoryId tenantId) (Row.setStatus status)
    (Row.setStatus_id status)

/-- A condition that names the id selects a row of the table exactly when it
holds of the row with that id. -/
private theorem any_eq_of_id (condition : Row → Bool) :
    memories.rows.any (fun row => row.id == memoryId && condition row) =
      (memories.lookup memoryId).any condition := by
  rw [Bool.eq_iff_iff, any_eq_true, Option.any_eq_true]
  constructor
  · rintro ⟨row, rowMem, holds⟩
    rw [Bool.and_eq_true, beq_iff_eq] at holds
    exact ⟨row, lookup_eq_some_iff.mpr ⟨rowMem, holds.1⟩, holds.2⟩
  · rintro ⟨row, found, holds⟩
    have rowMem := lookup_eq_some_iff.mp found
    exact ⟨row, rowMem.1, by simp [rowMem.2, holds]⟩

theorem any_writable (memories : Memories) (memoryId : Uuid) (tenantId : String) :
    memories.rows.any (writable memoryId tenantId) =
      (getMemory memories memoryId tenantId).isSome := by
  have split : writable memoryId tenantId = fun row =>
      row.id == memoryId && (row.tenantId == tenantId && row.readable) := by
    funext row
    simp [writable, Bool.and_assoc]
  rw [split, any_eq_of_id, getMemory, Option.isSome_filter]

theorem memoryUpdateStatus_plain {now : Timestamp} (notHeld : status ≠ .quarantined) :
    memoryUpdateStatus now memories memoryId tenantId { status := status } =
      (writeStatus memories memoryId tenantId status,
        .ok (getMemory memories memoryId tenantId).isSome) := by
  have selectsEq : StatusWrite.selects { status := status } memoryId tenantId =
      writable memoryId tenantId := by
    funext row
    simp [StatusWrite.selects, writable, Row.readable, Bool.and_assoc]
  simp only [memoryUpdateStatus, selectsEq, any_writable, if_neg notHeld,
    Bool.false_and, Bool.and_false, Bool.false_eq_true, if_false,
    StatusWrite.pointer, Option.toList_none, pointersInTenant, all_nil,
    Bool.not_true]
  rfl

theorem lookup_writeStatus (memories : Memories) (memoryId : Uuid)
    (tenantId : String) (status : Status) (id : Uuid) :
    (writeStatus memories memoryId tenantId status).lookup id = (memories.lookup id).map fun row =>
        if writable memoryId tenantId row then row.setStatus status else row :=
  lookup_modify ..

theorem Reads.writeStatus (reads : Reads memories row) (memoryId : Uuid) (tenantId : String)
    (notHeld : status ≠ .quarantined) :
    Reads (writeStatus memories memoryId tenantId status) row :=
  reads.modify (Row.setStatus_id status) (Row.fixed_setStatus status)
    fun _ => readable_setStatus notHeld

theorem lookup_writeStatus_of_ne {id : Uuid} (distinct : id ≠ memoryId) (tenantId : String)
    (status : Status) :
    (writeStatus memories memoryId tenantId status).lookup id = memories.lookup id := by
  rw [lookup_writeStatus]
  cases found : memories.lookup id with
  | none => rfl
  | some row =>
    have idEq : row.id = id := (lookup_eq_some_iff.mp found).2
    simp [writable, idEq, distinct]

theorem lookup_writeStatus_self (found : getMemory memories memoryId tenantId = some row)
    (status : Status) :
    (writeStatus memories memoryId tenantId status).lookup memoryId =
      some (row.setStatus status) := by
  obtain ⟨present, tenantEq, readable⟩ := getMemory_eq_some_iff.mp found
  have idEq : row.id = memoryId := (lookup_eq_some_iff.mp present).2
  rw [lookup_writeStatus, present]
  simp [writable, idEq, tenantEq, readable]

/-! ## Edge writes -/

/-- An edge write meets the row only if the row can be read and has no edge. -/
theorem memorySetSupersedesIfNull_snd (memories : Memories) (memoryId : Uuid)
    (target : Uuid) (tenantId : String) :
    (memorySetSupersedesIfNull memories memoryId target tenantId).2 = true ↔
      pointersInTenant memories tenantId [target] = true ∧
        ∃ row, getMemory memories memoryId tenantId = some row ∧ row.supersedesId = none := by
  have split : unlinked memoryId tenantId = fun row => row.id == memoryId &&
      (row.tenantId == tenantId && row.readable && row.supersedesId.isNone) := by
    funext row
    simp [unlinked, Bool.and_assoc]
  unfold memorySetSupersedesIfNull
  split_ifs with inTenant
  · simp only [split, any_eq_of_id, inTenant, true_and, Option.any_eq_true,
      Bool.and_eq_true, beq_iff_eq, Option.isNone_iff_eq_none,
      getMemory_eq_some_iff, and_assoc]
  · simp [inTenant]

theorem lookup_memorySetSupersedesIfNull (memories : Memories) (memoryId : Uuid)
    (target : Uuid) (tenantId : String) (id : Uuid) :
    (memorySetSupersedesIfNull memories memoryId target tenantId).1.lookup id =
      (memories.lookup id).map fun row =>
        if pointersInTenant memories tenantId [target] &&
            unlinked memoryId tenantId row then linkTo target row
        else row := by
  unfold memorySetSupersedesIfNull
  split_ifs with inTenant
  · simp only [lookup_modify, inTenant, Bool.true_and]
  · simp [inTenant]

theorem lookup_memorySetSupersedesIfNull_of_ne {id : Uuid} (distinct : id ≠ memoryId)
    (target : Uuid) (tenantId : String) :
    (memorySetSupersedesIfNull memories memoryId target tenantId).1.lookup id =
      memories.lookup id := by
  rw [lookup_memorySetSupersedesIfNull]
  cases found : memories.lookup id with
  | none => rfl
  | some row =>
    have idEq : row.id = id := (lookup_eq_some_iff.mp found).2
    simp [unlinked, idEq, distinct]

/-- Between the two tables the row was given the edge. -/
def EdgeSet (before after : Memories) (owner target : Uuid) : Prop :=
  (before.lookup owner).map Row.supersedesId = some none ∧
    (after.lookup owner).map Row.supersedesId = some (some target)

theorem supersedesId_writeStatus (memories : Memories) (memoryId : Uuid) (tenantId : String)
    (status : Status) (id : Uuid) :
    ((writeStatus memories memoryId tenantId status).lookup id).map Row.supersedesId =
      (memories.lookup id).map Row.supersedesId := by
  rw [lookup_writeStatus, Option.map_map]
  congr 1
  funext row
  simp only [Function.comp]
  split <;> rfl

/-- An edge write gives the row that edge if it succeeds, and none otherwise. -/
theorem edgeSet_memorySetSupersedesIfNull_iff (memories : Memories) (memoryId target : Uuid)
    (tenantId : String) (other : Uuid) :
    EdgeSet memories (memorySetSupersedesIfNull memories memoryId target tenantId).1 memoryId
        other ↔
      target = other ∧ (memorySetSupersedesIfNull memories memoryId target tenantId).2 = true := by
  rw [memorySetSupersedesIfNull_snd, EdgeSet, lookup_memorySetSupersedesIfNull]
  cases found : memories.lookup memoryId with
  | none => simp [getMemory, found]
  | some row =>
    have idEq : row.id = memoryId := (lookup_eq_some_iff.mp found).2
    simp only [getMemory_eq_some_iff, found, unlinked]
    grind [linkTo]

theorem Reads.memorySetSupersedesIfNull (reads : Reads memories row) (memoryId target : Uuid)
    (tenantId : String) :
    Reads (memorySetSupersedesIfNull memories memoryId target tenantId).1 row := by
  unfold Memory.memorySetSupersedesIfNull
  split_ifs
  · exact reads.modify (linkTo_id target) (fixed_linkTo target) fun _ => id
  · exact reads

theorem Reads.retractSupersedes (reads : Reads memories row) (memoryId : Uuid) (status : Status)
    (tenantId : String) (expected : Uuid) :
    Reads (retractSupersedes memories memoryId status tenantId expected).1 row := by
  unfold Memory.retractSupersedes
  split_ifs with held
  · exact reads
  · exact reads.modify (unlinkAs_id status) (fixed_unlinkAs status) fun _ => readable_setStatus held

/-! ## Statuses in the table -/

/-- The row with this id has the status. -/
def HasStatus (memories : Memories) (id : Uuid) (status : Status) : Prop :=
  ∃ row, memories.lookup id = some row ∧ row.status = status

variable {id : Uuid}

section

variable (has : HasStatus memories id status)

include has

theorem HasStatus.modify {condition : Row → Bool} {change : Row → Row}
    (keeps : ∀ row, (change row).id = row.id)
    (agrees : ∀ row, row.id = id → row.status = status → condition row = true →
      (change row).status = status) :
    HasStatus (memories.modify condition change keeps) id status := by
  obtain ⟨row, found, statusEq⟩ := has
  refine ⟨if condition row then change row else row, ?_, ?_⟩
  · rw [lookup_modify, found, Option.map_some]
  · split
    next selected => exact agrees row (lookup_eq_some_iff.mp found).2 statusEq selected
    · exact statusEq

theorem HasStatus.memorySetSupersedesIfNull (memoryId target : Uuid) (tenantId : String) :
    HasStatus (memorySetSupersedesIfNull memories memoryId target tenantId).1 id status := by
  unfold Memory.memorySetSupersedesIfNull
  split
  · exact has.modify (linkTo_id target) fun _ _ statusEq _ => statusEq
  · exact has

variable {written : Status}

/-- A status write keeps the status of a row unless it writes another one over
it. -/
theorem HasStatus.writeStatus (tenantId : String) (agrees : memoryId = id → written = status) :
    HasStatus (writeStatus memories memoryId tenantId written) id status := by
  refine has.modify (Row.setStatus_id written) fun row idEq _ selected => ?_
  simp only [writable, Bool.and_eq_true, beq_iff_eq] at selected
  exact agrees (selected.1.1.symm.trans idEq)

/-- Clearing an edge keeps the status of a row unless it writes another one over
it. -/
theorem HasStatus.retractSupersedes (tenantId : String) (expected : Uuid)
    (agrees : memoryId = id → written = status) :
    HasStatus (retractSupersedes memories memoryId written tenantId expected).1 id status := by
  unfold Memory.retractSupersedes
  split
  · exact has
  · refine has.modify (unlinkAs_id written) fun row idEq _ selected => ?_
    simp only [retractable, Bool.and_eq_true, beq_iff_eq] at selected
    exact agrees (selected.1.1.1.symm.trans idEq)

end

/-- A row has one status. -/
theorem HasStatus.unique {first second : Status} (hasFirst : HasStatus memories id first)
    (hasSecond : HasStatus memories id second) :
    first = second := by
  obtain ⟨row, found, rfl⟩ := hasFirst
  obtain ⟨other, otherFound, rfl⟩ := hasSecond
  rw [found] at otherFound
  cases otherFound
  rfl

/-- A status write on a row that can be read lands. -/
theorem hasStatus_writeStatus (found : getMemory memories id tenantId = some row)
    (status : Status) :
    HasStatus (writeStatus memories id tenantId status) id status :=
  ⟨row.setStatus status, lookup_writeStatus_self found status, rfl⟩

/-! ## The batch route -/

/-- The update sets a status without conditions and an edge, if any, under the
compare-and-set. -/
structure Update.Guarded (update : Update) : Prop where
  keepsEdge : update.unsetSupersedes = false
  expectsNone : update.expectedSupersedesId = none
  edge : ∀ target, update.supersedesId = some target →
    update.expectSupersedesNull = true

namespace Update.Guarded

variable {update : Update}

theorem casEdge (guarded : update.Guarded) : update.casEdge = update.supersedesId := by
  cases edge : update.supersedesId with
  | none => simp [Update.casEdge, edge]
  | some target => simp [Update.casEdge, edge, guarded.keepsEdge, guarded.edge target edge]

theorem statusWrite (guarded : update.Guarded) :
    update.statusWrite = { status := update.status } := by
  have noPointer : (if update.casEdge.isSome then none
      else update.supersedesId) = none := by
    rw [guarded.casEdge]
    cases update.supersedesId <;> rfl
  unfold Update.statusWrite
  rw [noPointer, guarded.keepsEdge, guarded.expectsNone]

end Update.Guarded

variable {memories memories' : Memories} {answer answer' : BatchAnswer} {now : Timestamp}
  {update : Update}

section

variable (guarded : update.Guarded)
  (ran : batchRow now tenantId memories answer update = (memories', .ok answer'))

include guarded ran

/-- What a row of a batch can do: it skips a row it cannot read, and otherwise
writes the status and, unless the edge is taken, the edge. -/
theorem batchRow_eq_ok : (getMemory memories update.memoryId tenantId = none ∧
        memories' = writeStatus memories update.memoryId tenantId update.status ∧
        answer' = { answer with
          skipped := answer.skipped ++ [update.memoryId] }) ∨
      (update.supersedesId = none ∧
        memories' = writeStatus memories update.memoryId tenantId update.status ∧
        answer' = answer) ∨
      ∃ target linked, update.supersedesId = some target ∧ memorySetSupersedesIfNull
            (writeStatus memories update.memoryId tenantId update.status)
            update.memoryId target tenantId = (memories', linked) ∧
        answer' = if linked then answer else { answer with
          edgeSkipped := answer.edgeSkipped ++ [update.memoryId] } := by
  unfold batchRow at ran
  rw [guarded.statusWrite, guarded.casEdge] at ran
  by_cases held : update.status = .quarantined
  · simp [memoryUpdateStatus, held] at ran
  · rw [memoryUpdateStatus_plain held] at ran
    cases found : getMemory memories update.memoryId tenantId with
    | none =>
      simp only [found, Option.isSome_none, Prod.mk.injEq, Except.ok.injEq] at ran
      exact Or.inl ⟨rfl, ran.1.symm, ran.2.symm⟩
    | some current =>
      cases edge : update.supersedesId with
      | none =>
        simp only [found, edge, Option.isSome_some, Prod.mk.injEq, Except.ok.injEq] at ran
        exact Or.inr (Or.inl ⟨rfl, ran.1.symm, ran.2.symm⟩)
      | some target =>
        rcases write : memorySetSupersedesIfNull
            (writeStatus memories update.memoryId tenantId update.status)
            update.memoryId target tenantId with ⟨after, linked⟩
        refine Or.inr (Or.inr ⟨target, linked, rfl, ?_⟩)
        cases linked <;>
          simp only [found, edge, write, Option.isSome_some, Prod.mk.injEq,
            Except.ok.injEq] at ran <;>
          exact ⟨ran.1 ▸ write, ran.2.symm⟩

/-- A row of a batch leaves every other row of the table alone. -/
theorem batchRow_frame (distinct : id ≠ update.memoryId) :
    memories'.lookup id = memories.lookup id := by
  rcases batchRow_eq_ok guarded ran with
    ⟨_, rfl, _⟩ | ⟨_, rfl, _⟩ | ⟨target, linked, _, write, _⟩
  · exact lookup_writeStatus_of_ne distinct ..
  · exact lookup_writeStatus_of_ne distinct ..
  · have after := congrArg Prod.fst write
    dsimp only at after
    rw [← after, lookup_memorySetSupersedesIfNull_of_ne distinct, lookup_writeStatus_of_ne distinct]

/-- What a row of a batch declines is its own memory. -/
theorem batchRow_declined (distinct : id ≠ update.memoryId) :
    id ∈ answer'.declined ↔ id ∈ answer.declined := by
  rcases batchRow_eq_ok guarded ran with
    ⟨_, _, rfl⟩ | ⟨_, _, rfl⟩ | ⟨target, linked, _, _, rfl⟩
  · simp [BatchAnswer.declined, distinct]
  · rfl
  · cases linked <;> simp [BatchAnswer.declined, distinct]

/-- A row of a batch writes the edge it carries unless it declines. -/
theorem batchRow_edgeSet_iff (fresh : update.memoryId ∉ answer.declined) :
    EdgeSet memories memories' update.memoryId target ↔
      update.supersedesId = some target ∧ update.memoryId ∉ answer'.declined := by
  have keeps : ∀ status, ¬ EdgeSet memories
      (writeStatus memories update.memoryId tenantId status) update.memoryId target := by
    rintro status ⟨before, after⟩
    rw [supersedesId_writeStatus, before] at after
    cases after
  rcases batchRow_eq_ok guarded ran with
    ⟨_, rfl, rfl⟩ | ⟨noEdge, rfl, _⟩ | ⟨edge, linked, isEdge, write, rfl⟩
  · simp [keeps, BatchAnswer.declined]
  · simp [keeps, noEdge]
  · have written := edgeSet_memorySetSupersedesIfNull_iff
      (writeStatus memories update.memoryId tenantId update.status) update.memoryId edge tenantId
      target
    rw [EdgeSet, supersedesId_writeStatus, write] at written
    rw [EdgeSet, written, isEdge]
    cases linked with
    | false => simp [BatchAnswer.declined]
    | true => simp [fresh]

end

variable {updates : List Update}

theorem batchRows_cons_eq_ok (rows : batchRows now tenantId memories answer (update :: updates) =
      (memories', .ok answer')) :
    ∃ written between, batchRow now tenantId memories answer update = (written, .ok between) ∧
        batchRows now tenantId written between updates = (memories', .ok answer') := by
  unfold batchRows at rows
  split at rows
  next written refusal rowEq => simp at rows
  next written between rowEq => exact ⟨written, between, rowEq, rows⟩

section

variable (guarded : ∀ update ∈ updates, update.Guarded)
  (rows : batchRows now tenantId memories answer updates = (memories', .ok answer'))

include guarded rows

theorem batchRows_frame (untouched : id ∉ updates.map Update.memoryId) :
    memories'.lookup id = memories.lookup id := by
  induction updates generalizing memories answer with
  | nil =>
    have memoriesEq : memories = memories' := congrArg Prod.fst rows
    rw [memoriesEq]
  | cons update updates ih =>
    rcases batchRows_cons_eq_ok rows with ⟨written, between, row, rest⟩
    rw [map_cons, mem_cons, not_or] at untouched
    rw [ih (fun other otherMem => guarded other (mem_cons_of_mem _ otherMem)) rest untouched.2,
      batchRow_frame (guarded update mem_cons_self) row untouched.1]

theorem batchRows_declined (untouched : id ∉ updates.map Update.memoryId) :
    id ∈ answer'.declined ↔ id ∈ answer.declined := by
  induction updates generalizing memories answer with
  | nil =>
    have answerEq : answer = answer' := by
      simpa [batchRows] using congrArg Prod.snd rows
    rw [answerEq]
  | cons update updates ih =>
    obtain ⟨written, between, row, rest⟩ := batchRows_cons_eq_ok rows
    rw [map_cons, mem_cons, not_or] at untouched
    rw [ih (fun other otherMem => guarded other (.tail _ otherMem)) rest untouched.2,
      batchRow_declined (guarded update (.head _)) row untouched.1]

/-- The edges that a batch writes are those that it carries and does not decline. -/
theorem batchRows_edgeSet_iff (distinct : (updates.map Update.memoryId).Nodup)
    (fresh : ∀ update ∈ updates, update.memoryId ∉ answer.declined) {owner : Uuid} :
    EdgeSet memories memories' owner target ↔ ∃ update ∈ updates,
      update.memoryId = owner ∧ update.supersedesId = some target ∧ owner ∉ answer'.declined := by
  induction updates generalizing memories answer with
  | nil =>
    have memoriesEq : memories = memories' := congrArg Prod.fst rows
    simp only [not_mem_nil, false_and, exists_false, iff_false]
    rintro ⟨before, after⟩
    rw [← memoriesEq, before] at after
    cases after
  | cons head updates ih =>
    obtain ⟨written, between, row, rest⟩ := batchRows_cons_eq_ok rows
    have headGuarded := guarded head mem_cons_self
    have restGuarded : ∀ other ∈ updates, other.Guarded :=
      fun other otherMem => guarded other (mem_cons_of_mem _ otherMem)
    rw [map_cons, nodup_cons] at distinct
    have others : ∀ other ∈ updates, other.memoryId ≠ head.memoryId := fun other otherMem same =>
      distinct.1 (same ▸ mem_map_of_mem otherMem)
    by_cases isHead : head.memoryId = owner
    · rw [EdgeSet, ← isHead, batchRows_frame restGuarded rest distinct.1, ← EdgeSet,
        batchRow_edgeSet_iff headGuarded row (fresh head (.head _)),
        ← batchRows_declined restGuarded rest distinct.1]
      grind
    · rw [EdgeSet, ← batchRow_frame headGuarded row (Ne.symm isHead), ← EdgeSet,
        ih restGuarded rest distinct.2 ?_]
      · simp [isHead]
      · intro other otherMem
        rw [batchRow_declined headGuarded row (others other otherMem)]
        exact fresh other (.tail _ otherMem)

end

end Caura.Memory
