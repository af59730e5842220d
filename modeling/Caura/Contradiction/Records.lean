import Caura.Contradiction.Rdf

/-!
# Every demoted row stays reachable from its winner

A pass can wire at most one edge from its trigger, and a flush can lose an edge
to another writer, so an edge alone does not name the winner of every loser.
What the flush does not link is posted as a conflict record instead.  This
module proves that nothing falls between the two, whatever the order and the
mix of the candidates and whatever the flush declines, and that a disputed pair
is posted and writes nothing.

A posted record is stored when both of its memories can be read at that
moment.  A trigger that is soft-deleted between the read and the flush is where
this matters: its losers are demoted, its edge is skipped and its records are
refused.
-/

namespace Caura.Contradiction

open Caura.Relation Caura.Value Caura.Memory List

/-! ## Disputed pairs write nothing -/

/-- Two loop states from which the same writes follow. -/
structure SameWrites (first second : LoopState) : Prop where
  supersedesId : first.supersedesId = second.supersedesId
  newMemoryIsOutdated : first.newMemoryIsOutdated = second.newMemoryIsOutdated
  updates : first.updates = second.updates

variable {kind : Kind} {newMemory : Row} {byAuthor : ByAuthor} {first second : LoopState}

/-- Considering a candidate reads nothing but what `SameWrites` compares. -/
theorem SameWrites.considerCandidate (same : SameWrites first second) (found : Candidate) :
    SameWrites (considerCandidate kind newMemory byAuthor first found)
      (considerCandidate kind newMemory byAuthor second found) := by
  obtain ⟨supersedesId, isOutdated, updates, _⟩ := first
  obtain ⟨_, _, _, _⟩ := second
  obtain ⟨rfl, rfl, rfl⟩ := same
  unfold Contradiction.considerCandidate linkFlipped linkCanonical
  dsimp only
  split <;> split
  · exact ⟨rfl, rfl, rfl⟩
  · cases found.row.supersedesId <;> exact ⟨rfl, rfl, rfl⟩
  · exact ⟨rfl, rfl, rfl⟩
  · cases supersedesId <;> exact ⟨rfl, rfl, rfl⟩

theorem sameWrites_foldl_filter (candidates : List Candidate) (same : SameWrites first second) :
    SameWrites (candidates.foldl (considerCandidate kind newMemory byAuthor) first)
      ((candidates.filter (confirmed newMemory byAuthor)).foldl
        (considerCandidate kind newMemory byAuthor) second) := by
  induction candidates generalizing first second with
  | nil => exact same
  | cons found candidates ih =>
    cases isConfirmed : confirmed newMemory byAuthor found with
    | true =>
      rw [filter_cons_of_pos isConfirmed]
      exact ih (same.considerCandidate found)
    | false =>
      rw [filter_cons_of_neg (by simp [isConfirmed]), foldl_cons,
        considerCandidate_disputed isConfirmed]
      exact ih ⟨same.supersedesId, same.newMemoryIsOutdated, same.updates⟩

/-- A loop plans the writes of its confirmed pairs alone. -/
theorem detectionLoop_updates_filter (supersedesId : Option Uuid) (candidates : List Candidate) :
    (detectionLoop kind newMemory byAuthor supersedesId candidates).updates =
      (detectionLoop kind newMemory byAuthor supersedesId
        (candidates.filter (confirmed newMemory byAuthor))).updates :=
  (sameWrites_foldl_filter candidates ⟨rfl, rfl, rfl⟩).updates

/-! ## Linked by the flush -/

/-- Between the two tables a row without an edge was wired to `target`. -/
def EdgeWritten (before after : Memories) (target : Uuid) : Prop :=
  ∃ owner, EdgeSet before after owner target

variable {tenantId : String} {memories flushed : Memories} {now : Timestamp}
  {answer : BatchAnswer}

/-- A flush writes the planned edges that it does not decline. -/
theorem flush_edgeSet_iff {updates : Updates} (guarded : ∀ update ∈ updates, update.Guarded)
    (flushEq : flush now tenantId updates memories = (flushed, .ok answer)) {owner target : Uuid} :
    EdgeSet memories flushed owner target ↔
      edgeOf updates owner = some target ∧ owner ∉ answer.declined := by
  have planned : edgeOf updates owner = some target ↔ ∃ update ∈ updates.rows,
      update.memoryId = owner ∧ update.supersedesId = some target := by
    simp only [edgeOf, Option.bind_eq_some_iff, Table.lookup_eq_some_iff, Table.mem_def, and_assoc]
  unfold flush batchUpdateStatus at flushEq
  split_ifs at flushEq with isEmpty
  · cases flushEq
    simp only [planned, isEmpty_iff.mp isEmpty, EdgeSet]
    grind
  · rw [batchRows_edgeSet_iff guarded flushEq updates.nodup (by simp [BatchAnswer.declined]),
      planned]
    grind
  · simp at flushEq

variable {candidates : List Candidate} {loop : LoopState} {found : Candidate}
  {edge : Option Uuid}

/-- The loser of the pair is the target of a planned edge that the flush did not decline. -/
def Linked (newMemory : Row) (byAuthor : ByAuthor) (edge : Option Uuid)
    (candidates : List Candidate) (answer : BatchAnswer) (found : Candidate) : Prop :=
  ∃ owner, plannedEdge newMemory byAuthor edge candidates owner =
    some (loser newMemory found).id ∧ owner ∉ answer.declined

theorem edgeWritten_iff_linked (plans : Plans kind newMemory byAuthor edge candidates loop)
    (guarded : ∀ update ∈ loop.updates, update.Guarded)
    (flushEq : flush now tenantId loop.updates memories = (flushed, .ok answer)) :
    EdgeWritten memories flushed (loser newMemory found).id ↔
      Linked newMemory byAuthor edge candidates answer found := by
  simp only [EdgeWritten, flush_edgeSet_iff guarded flushEq, plans.edges, Linked]

/-- A confirmed pair whose loser is not linked is among the unlinked ones. -/
theorem settled_mem_unlinkedPairs (plans : Plans kind newMemory byAuthor edge candidates loop)
    (inv : LoopInvariant kind newMemory byAuthor candidates loop) (foundMem : found ∈ candidates)
    (isConfirmed : confirmed newMemory byAuthor found = true)
    (notLinked : ¬ Linked newMemory byAuthor edge candidates answer found) :
    settled kind found ∈ unlinkedPairs newMemory loop.recordPairs loop.updates answer := by
  have recorded : settled kind found ∈ loop.recordPairs := by
    rw [inv.recordPairs]
    exact mem_map_of_mem (mem_filter.mpr ⟨foundMem, isConfirmed⟩)
  simp only [unlinkedPairs, mem_filter, recorded, true_and, Bool.not_eq_true', ← Bool.not_eq_true,
    contains_iff_mem, mem_filterMap]
  rintro ⟨update, ⟨updateMem, kept⟩, isTarget⟩
  refine notLinked ⟨update.memoryId, ?_, by simpa [BatchAnswer.declined] using kept⟩
  rw [← plans.edges, edgeOf, Table.lookup_key updateMem]
  exact isTarget

/-! ## The pass -/

/-- The rows the lookup answered, as candidates. -/
def rdfFound (rdfConflicts : List Row) : List Candidate :=
  rdfConflicts.map fun row => { row := row }

variable {result : PassResult} {text : TextOps} {agents : Agents} {supersedesId : Option Uuid}
  {rdfConflicts : List Row}

section

variable
  (passed : rdfConflictPass text agents now tenantId newMemory supersedesId rdfConflicts memories =
    (flushed, .ok result))

include passed

/-- What a pass that ran planned, flushed and returned. -/
theorem rdfConflictPass_ran (ran : result.ran = true) :
    ∃ loop answer, loop = detectionLoop .rdf newMemory result.byAuthor supersedesId
        (rdfFound rdfConflicts) ∧
      flush now tenantId loop.updates memories = (flushed, .ok answer) ∧
      result.recordPairs = loop.recordPairs ∧
      result.unlinkedPairs = unlinkedPairs newMemory loop.recordPairs loop.updates answer ∧
      result.disputedPairs = loop.disputed := by
  unfold rdfConflictPass at passed
  split at passed
  · have resultEq := congrArg Prod.snd passed
    simp only [Except.ok.injEq] at resultEq
    rw [← resultEq] at ran
    simp at ran
  · dsimp only at passed
    split at passed
    · simp at passed
    next flushed' answer flushEq =>
      obtain ⟨rfl, rfl⟩ := passed
      exact ⟨_, answer, rfl, flushEq, rfl, rfl, rfl⟩

theorem rdfConflictPass_not_ran (notRan : result.ran = false) : flushed = memories := by
  unfold rdfConflictPass at passed
  split at passed
  · exact (congrArg Prod.fst passed).symm
  · dsimp only at passed
    split at passed
    · simp at passed
    · simp only [Prod.mk.injEq, Except.ok.injEq] at passed
      rw [← passed.2] at notRan
      simp at notRan

end

/-- The records posted after a pass, with the setting off. -/
def passRecords (tenantId : String) (newMemory : Row) (result : PassResult) :
    List ConflictPayload :=
  recordConflicts false tenantId newMemory result.byAuthor result.recordPairs
    result.unlinkedPairs result.disputedPairs

variable {payload : ConflictPayload}

theorem mem_passRecords_iff :
    payload ∈ passRecords tenantId newMemory result ↔ (∃ pair ∈ result.unlinkedPairs,
        conflictPayload tenantId newMemory result.byAuthor false pair = payload) ∨
        ∃ pair ∈ result.disputedPairs,
          conflictPayload tenantId newMemory result.byAuthor true pair = payload := by
  simp [passRecords, recordConflicts]

/-- The payload names the trigger and the candidate, in the order of its
columns, and says whether the verdict was applied. -/
structure NamesPair (payload : ConflictPayload) (newMemory candidate : Row)
    (applied : Bool) : Prop where
  newMemoryId : payload.newMemoryId = newMemory.id
  oldMemoryId : payload.oldMemoryId = candidate.id
  effectApplied : payload.effectApplied = applied

/-- Both memories of a pair can be read in the tenant. -/
def bothReadable (memories : Memories) (tenantId : String) (newMemory candidate : Row) : Bool :=
  (getMemory memories newMemory.id tenantId).isSome &&
    (getMemory memories candidate.id tenantId).isSome

/-- Each row that the flush could demote is the target of an edge that it wrote, or its pair has a
record; and each disputed pair has one. -/
structure PairsNamed (tenantId : String) (newMemory : Row) (result : PassResult)
    (candidates : List Candidate) (before after current : Memories) : Prop where
  demoted : ∀ found ∈ candidates, confirmed newMemory result.byAuthor found = true →
    (getMemory before (loser newMemory found).id tenantId).isSome = true →
      EdgeWritten before after (loser newMemory found).id ∨
        ∃ payload ∈ passRecords tenantId newMemory result,
          NamesPair payload newMemory found.row true ∧
            recordMemoryConflict current payload = some payload
  disputed : ∀ found ∈ candidates, confirmed newMemory result.byAuthor found = false →
    ∃ payload ∈ passRecords tenantId newMemory result,
      NamesPair payload newMemory found.row false ∧
        recordMemoryConflict current payload = some payload

/-- The pair is disputed, or its loser is demoted and not linked. -/
def NeedsRecord (tenantId : String) (newMemory : Row) (byAuthor : ByAuthor) (edge : Option Uuid)
    (candidates : List Candidate) (before : Memories) (answer : BatchAnswer)
    (found : Candidate) : Prop :=
  confirmed newMemory byAuthor found = true →
    (getMemory before (loser newMemory found).id tenantId).isSome = true ∧
      ¬ Linked newMemory byAuthor edge candidates answer found

/-- A posted record is stored where both memories of its pair can be read. -/
theorem recordMemoryConflict_eq_some_iff {candidate : Row} {applied : Bool} {current : Memories}
    (payloadMem : payload ∈ passRecords tenantId newMemory result)
    (names : NamesPair payload newMemory candidate applied) :
    recordMemoryConflict current payload = some payload ↔
      bothReadable current tenantId newMemory candidate = true := by
  have ofTenant : payload.tenantId = tenantId := by
    rcases mem_passRecords_iff.mp payloadMem with ⟨_, _, rfl⟩ | ⟨_, _, rfl⟩ <;> rfl
  rw [recordMemoryConflict, names.newMemoryId, names.oldMemoryId, ofTenant, bothReadable]
  split
  next readable => simp [readable]
  next unreadable => simp [unreadable]

/-- Each row that a pass decides to demote is the target of an edge that its flush wrote, or is the
loser of a pair posted as an applied verdict; and each disputed pair is posted as a dispute. -/
structure PairsPosted (tenantId : String) (newMemory : Row) (result : PassResult)
    (candidates : List Candidate) (before after : Memories) : Prop where
  demoted : ∀ found ∈ candidates, confirmed newMemory result.byAuthor found = true →
    EdgeWritten before after (loser newMemory found).id ∨
      ∃ payload ∈ passRecords tenantId newMemory result, NamesPair payload newMemory found.row true
  disputed : ∀ found ∈ candidates, confirmed newMemory result.byAuthor found = false →
    ∃ payload ∈ passRecords tenantId newMemory result, NamesPair payload newMemory found.row false

/-- The pairs that are posted are named where those that need a record can be read. -/
theorem PairsPosted.named_iff
    (posted : PairsPosted tenantId newMemory result candidates memories flushed)
    (linked : ∀ found, EdgeWritten memories flushed (loser newMemory found).id ↔
      Linked newMemory result.byAuthor edge candidates answer found) (current : Memories) :
    PairsNamed tenantId newMemory result candidates memories flushed current ↔
      ∀ found ∈ candidates, NeedsRecord tenantId newMemory result.byAuthor edge candidates
        memories answer found → bothReadable current tenantId newMemory found.row = true := by
  constructor
  · intro named found foundMem needs
    cases isConfirmed : confirmed newMemory result.byAuthor found with
    | true =>
      obtain ⟨present, notLinked⟩ := needs isConfirmed
      obtain ⟨payload, payloadMem, names, stored⟩ :=
        (named.demoted found foundMem isConfirmed present).resolve_left
          (mt (linked found).mp notLinked)
      exact (recordMemoryConflict_eq_some_iff payloadMem names).mp stored
    | false =>
      obtain ⟨payload, payloadMem, names, stored⟩ := named.disputed found foundMem isConfirmed
      exact (recordMemoryConflict_eq_some_iff payloadMem names).mp stored
  · intro readable
    constructor
    · intro found foundMem isConfirmed present
      refine or_iff_not_imp_left.mpr fun unwritten => ?_
      obtain ⟨payload, payloadMem, names⟩ :=
        (posted.demoted found foundMem isConfirmed).resolve_left unwritten
      refine ⟨payload, payloadMem, names, ?_⟩
      exact (recordMemoryConflict_eq_some_iff payloadMem names).mpr
        (readable found foundMem fun _ => ⟨present, mt (linked found).mpr unwritten⟩)
    · intro found foundMem isDisputed
      obtain ⟨payload, payloadMem, names⟩ := posted.disputed found foundMem isDisputed
      refine ⟨payload, payloadMem, names, ?_⟩
      exact (recordMemoryConflict_eq_some_iff payloadMem names).mpr
        (readable found foundMem fun isConfirmed => absurd isConfirmed (by simp [isDisputed]))

/-- What a pass demotes is linked or posted, what it disputes is posted, and its flush is
that of the confirmed pairs alone.  All pairs are named exactly if, when the records are
posted, both memories of each pair that needs one can be read. -/
theorem demoted_linked_or_posted {text : TextOps} {agents : Agents}
    {now : Timestamp} {tenantId : String} {newMemory : Row}
    {supersedesId : Option Uuid} {rdfConflicts : List Row}
    {memories flushed : Memories} {result : PassResult}
    (distinct : ((newMemory :: rdfConflicts).map Row.id).Nodup)
    (passed : rdfConflictPass text agents now tenantId newMemory supersedesId
      rdfConflicts memories = (flushed, .ok result)) :
    (result.ran = false → flushed = memories) ∧ (result.ran = true →
        PairsPosted tenantId newMemory result (rdfFound rdfConflicts) memories flushed ∧
        ∃ answer, flush now tenantId (detectionLoop .rdf newMemory result.byAuthor supersedesId
            ((rdfFound rdfConflicts).filter
              (confirmed newMemory result.byAuthor))).updates memories =
            (flushed, .ok answer) ∧
          ∀ current : Memories, PairsNamed tenantId newMemory result (rdfFound rdfConflicts)
              memories flushed current ↔
            ∀ found ∈ rdfFound rdfConflicts, NeedsRecord tenantId newMemory result.byAuthor
              supersedesId (rdfFound rdfConflicts) memories answer found →
                bothReadable current tenantId newMemory found.row = true) := by
  refine ⟨rdfConflictPass_not_ran passed, fun ran => ?_⟩
  obtain ⟨loop, answer, loopEq, flushEq, _, unlinkedEq, disputedEq⟩ :=
    rdfConflictPass_ran passed ran
  have read : ((readRows newMemory (rdfFound rdfConflicts)).map Row.id).Nodup := by
    rwa [rdfFound, readRows_map]
  have inv : LoopInvariant .rdf newMemory result.byAuthor (rdfFound rdfConflicts) loop :=
    loopEq ▸ detectionLoop_invariant read supersedesId
  have plans : Plans .rdf newMemory result.byAuthor supersedesId (rdfFound rdfConflicts) loop :=
    loopEq ▸ plans_detectionLoop read
  have linked : ∀ found, EdgeWritten memories flushed (loser newMemory found).id ↔
      Linked newMemory result.byAuthor supersedesId (rdfFound rdfConflicts) answer found :=
    fun found => edgeWritten_iff_linked plans
      (fun update updateMem => (inv.planned update updateMem).guarded) flushEq
  have posted : PairsPosted tenantId newMemory result (rdfFound rdfConflicts) memories
      flushed := by
    constructor
    · intro found foundMem isConfirmed
      refine or_iff_not_imp_left.mpr fun unwritten => ?_
      have unlinked := settled_mem_unlinkedPairs plans inv foundMem isConfirmed
        (mt (linked found).mpr unwritten)
      rw [← unlinkedEq] at unlinked
      exact ⟨_, mem_passRecords_iff.mpr (.inl ⟨_, unlinked, rfl⟩), rfl, rfl, rfl⟩
    · intro found foundMem isDisputed
      have pairMem : settled .rdf found ∈ result.disputedPairs := by
        rw [disputedEq, inv.disputed]
        exact mem_map_of_mem (mem_filter.mpr ⟨foundMem, by simp [isDisputed]⟩)
      exact ⟨_, mem_passRecords_iff.mpr (.inr ⟨_, pairMem, rfl⟩), rfl, rfl, rfl⟩
  refine ⟨posted, answer, ?_, posted.named_iff linked⟩
  rw [← detectionLoop_updates_filter, ← loopEq]
  exact flushEq

/-! ## A trigger deleted between the read and the flush -/

/-- The older value of the slot. -/
def draftRow : Row :=
  slotRow (.ofNat 1) 10 "draft"

/-- The newer value of the slot, the trigger of the pass. -/
def finalRow : Row :=
  slotRow (.ofNat 2) 20 "final"

/-- The pass of the trigger over the table its flush meets. -/
def finalPass (memories : Memories) : Memories × Except StatusError PassResult :=
  rdfConflictPass TextOps.ascii (fun _ _ => none) 30 "t" finalRow none [draftRow]
    memories

/-- The table with both memories. -/
def bothPresent : Memories where
  rows := [draftRow, finalRow]
  nodup := by decide

/-- The table after the trigger was soft-deleted. -/
def finalDeleted : Memories where
  rows := [draftRow, { finalRow with deletedAt := some 25 }]
  nodup := by decide

/-- With both memories present the older one is linked or recorded. -/
theorem demoted_linked_or_posted_pair :
    ∃ flushed result, finalPass bothPresent = (flushed, .ok result) ∧
      PairsNamed "t" finalRow result (rdfFound [draftRow]) bothPresent flushed flushed := by
  refine ⟨_, _, rfl, ?_⟩
  have passed : rdfConflictPass TextOps.ascii (fun _ _ => none) 30 "t" finalRow
      none [draftRow] bothPresent = _ := rfl
  obtain ⟨-, _, -, named⟩ := (demoted_linked_or_posted (by decide) passed).2 rfl
  refine (named _).mpr fun found foundMem _ => ?_
  rw [mem_singleton.mp foundMem]
  decide

/-- The trigger is read, then soft-deleted, then flushed: its loser is demoted
all the same, no edge is written, and storage refuses the posted record. -/
theorem deleted_trigger_leaves_loser_unnamed :
    ∃ flushed result, finalPass finalDeleted = (flushed, .ok result) ∧
      (flushed.lookup draftRow.id).map Row.status = some .outdated ∧
      (¬ EdgeWritten finalDeleted flushed draftRow.id) ∧
      ∀ payload ∈ passRecords "t" finalRow result, recordMemoryConflict flushed payload = none := by
  refine ⟨_, _, rfl, by decide, ?_, by decide⟩
  rintro ⟨owner, _, edge⟩
  obtain ⟨new, newFound, newEdge⟩ := Option.map_eq_some_iff.mp edge
  have noEdges : ∀ row ∈ (finalPass finalDeleted).1.rows, row.supersedesId = none := by
    decide
  have newMem := (Table.lookup_eq_some_iff.mp newFound).1
  rw [noEdges new newMem] at newEdge
  contradiction

end Caura.Contradiction
