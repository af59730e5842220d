import Caura.Memory.Scope
import Caura.Memory.Verdict

/-!
# The memories that replaced a stale one

`memory_find_successors` returns, for each requested memory, the rows of the
reader's scope whose edge names it and the rows that a conflict record makes its
winner.  The record lookup joins both sides of a record, compares creation times
in SQL and skips dismissed records, but reads no `effect_applied`.

The theorem compares the result with `Defeats` for one requested memory, and says
for exactly which stores the two agree.
-/

namespace Caura.Memory

open Caura.Relation Caura.Value List Table

/-! ## The query -/

/-- The arguments that the lookup shares with the other reads. -/
structure ReadScope where
  tenantId : String
  fleetIds : List String := []
  callerAgentId : Option String := none
  callerTenantId : Option String := none
  filterAgentId : Option String := none
  memoryTypeFilter : Option String := none
  validAt : Option Timestamp := none
  strictFleetScoping : Bool := false
  readableTenantIds : List String := []
  verifiedOnly : Bool := false
  batonId : Option String := none

/-- The tenants that are read: the given ones, or its own. -/
def ReadScope.reads (scope : ReadScope) (tenantId : String) : Bool :=
  if scope.readableTenantIds.isEmpty then tenantId == scope.tenantId
  else scope.readableTenantIds.contains tenantId

/-- `caller_tenant_id or tenant_id`. -/
def ReadScope.homeTenant (scope : ReadScope) : String :=
  (given scope.callerTenantId).getD scope.tenantId

/-- The arguments of the lookup. -/
structure SuccessorQuery extends ReadScope where
  supersedesIds : List Uuid

/-- The rows that may be returned. -/
def SuccessorQuery.inScope (query : SuccessorQuery) (row : Row) : Bool :=
  query.reads row.tenantId &&
    [Status.active, Status.confirmed].contains row.status &&
    row.deletedAt.isNone &&
    visibilityScopeClause query.callerAgentId (some query.homeTenant) row &&
    (query.fleetIds.isEmpty || fleetScopeClause query.fleetIds query.strictFleetScoping row) &&
    ((given query.filterAgentId).all fun agentId => row.agentId == agentId) &&
    ((given query.memoryTypeFilter).all fun type => row.memoryType == type) &&
    (!query.verifiedOnly || verifiedClause row) &&
    ((given query.batonId).all fun batonId => batonClause batonId row) &&
    query.validAt.all fun validAt => startedBy validAt row

/-- The winner was created later than the loser, or at the same time and has the
greater id.  A missing time compares as false. -/
def createdAfter (winner loser : Row) : Bool :=
  match winner.createdAt, loser.createdAt with
  | some winnerDt, some loserDt =>
    loserDt < winnerDt || (winnerDt == loserDt && decide (loser.id < winner.id))
  | _, _ => false

/-- The conditions of `_recorded_winners` on a record and the two rows it
joins. -/
def namesWinner (query : SuccessorQuery) (record : Conflict) (winner loser : Row) : Bool :=
  query.reads record.tenantId && loser.tenantId == record.tenantId &&
    record.standing && query.supersedesIds.contains loser.id &&
    loser.deletedAt.isNone && loser.contradicted && createdAfter winner loser &&
    winner.supersedesId != some loser.id && query.inScope winner

/-- `_recorded_winners` in one orientation: the winners that records name on one
side, for the requested losers on the other. -/
def recordedWinners (memories : Memories) (conflicts : Conflicts)
    (query : SuccessorQuery) (loserSide winnerSide : Conflict → Uuid) :
    List (Row × Uuid) :=
  conflicts.rows.filterMap fun record =>
    match memories.lookup (winnerSide record), memories.lookup (loserSide record) with
    | some winner, some loser =>
      if namesWinner query record winner loser then some (winner, loser.id)
      else none
    | _, _ => none

/-- The rows whose edge names a requested memory. -/
def edgeWinners (memories : Memories) (query : SuccessorQuery) : List (Row × Uuid) :=
  memories.rows.filterMap fun row =>
    match row.supersedesId with
    | some target =>
      if query.supersedesIds.contains target && query.inScope row then
        some (row, target)
      else
        none
    | none => none

/-- `memory_find_successors`: the rows, each with the id of the one it
replaced. -/
def memoryFindSuccessors (memories : Memories) (conflicts : Conflicts)
    (query : SuccessorQuery) : List (Row × Uuid) :=
  edgeWinners memories query ++
    recordedWinners memories conflicts query Conflict.oldMemoryId
      Conflict.newMemoryId ++
    recordedWinners memories conflicts query Conflict.newMemoryId
      Conflict.oldMemoryId

/-! ## What the query returns -/

variable {memories : Memories} {conflicts : Conflicts} {query : SuccessorQuery} {pair : Row × Uuid}

theorem mem_supersedesIds_of_recordedWinners {loserSide winnerSide : Conflict → Uuid}
    (found : pair ∈ recordedWinners memories conflicts query loserSide winnerSide) :
    pair.2 ∈ query.supersedesIds := by
  obtain ⟨record, _, named⟩ := mem_filterMap.mp found
  split at named
  next winner loser _ _ =>
    split at named <;> cases named
    next names =>
      simp only [namesWinner, Bool.and_eq_true] at names
      exact contains_iff_mem.mp names.1.1.1.1.1.2
  · cases named

/-- Only requested memories are reported as replaced. -/
theorem mem_supersedesIds_of_memoryFindSuccessors
    (found : pair ∈ memoryFindSuccessors memories conflicts query) :
    pair.2 ∈ query.supersedesIds := by
  simp only [memoryFindSuccessors, mem_append] at found
  rcases found with (edge | recorded) | recorded
  · obtain ⟨row, _, named⟩ := mem_filterMap.mp edge
    split at named
    next target _ =>
      split at named <;> cases named
      next requested =>
        exact contains_iff_mem.mp (Bool.and_eq_true_iff.mp requested).1
    · cases named
  · exact mem_supersedesIds_of_recordedWinners recorded
  · exact mem_supersedesIds_of_recordedWinners recorded

/-- On rows that both have a creation time, SQL compares as `pickOlder` does. -/
theorem createdAfter_iff {winner loser : Row} : createdAfter winner loser = true ↔
      winner.createdAt.isSome = true ∧ loser.createdAt.isSome = true ∧ Older loser winner := by
  unfold createdAfter Older
  cases winner.createdAt with
  | none => simp
  | some winnerDt =>
    cases loser.createdAt with
    | none => simp
    | some loserDt =>
      simp only [Option.isSome_some, true_and, Bool.or_eq_true, Bool.and_eq_true,
        decide_eq_true_eq, beq_iff_eq]
      rw [eq_comm (a := winnerDt)]

section Query

variable {winner loser : Row}

theorem mem_recordedWinners_iff {loserSide winnerSide : Conflict → Uuid}
    (winnerMem : winner ∈ memories) (loserMem : loser ∈ memories) :
    (winner, loser.id) ∈ recordedWinners memories conflicts query loserSide winnerSide ↔
      ∃ record ∈ conflicts.rows, winnerSide record = winner.id ∧ loserSide record = loser.id ∧
        namesWinner query record winner loser = true := by
  simp only [recordedWinners, mem_filterMap]
  refine exists_congr fun record => and_congr_right fun _ => ?_
  constructor
  · intro returned
    split at returned
    next foundWinner foundLoser winnerFound loserFound =>
      split at returned
      next holds =>
        obtain ⟨rfl, loserId⟩ := Prod.mk.inj (Option.some.inj returned)
        obtain ⟨_, winnerKey⟩ := lookup_eq_some_iff.mp winnerFound
        obtain ⟨foundMem, loserKey⟩ := lookup_eq_some_iff.mp loserFound
        have same : foundLoser = loser := eq_of_key_eq foundMem loserMem loserId
        subst same
        exact ⟨winnerKey.symm, loserKey.symm, holds⟩
      · contradiction
    · contradiction
  · rintro ⟨winnerKey, loserKey, holds⟩
    rw [winnerKey, loserKey, lookup_key winnerMem, lookup_key loserMem]
    simp only [holds, if_true]

theorem mem_edgeWinners_iff (winnerMem : winner ∈ memories)
    (requested : loser.id ∈ query.supersedesIds) :
    (winner, loser.id) ∈ edgeWinners memories query ↔
      query.inScope winner = true ∧ winner.supersedesId = some loser.id := by
  simp only [edgeWinners, mem_filterMap]
  constructor
  · rintro ⟨row, _, returned⟩
    split at returned
    next target edge =>
      split at returned
      next holds =>
        cases returned
        exact ⟨(Bool.and_eq_true_iff.mp holds).2, edge⟩
      · contradiction
    · contradiction
  · rintro ⟨scope, edge⟩
    exact ⟨winner, winnerMem, by simp [edge, scope, requested]⟩

/-- A record of the loser's tenant that nobody dismissed joins the two rows,
whether or not its verdict was applied. -/
def JoinedByRecord (conflicts : Conflicts) (winner loser : Row) : Prop :=
  ∃ record ∈ conflicts.rows, record.tenantId = loser.tenantId ∧
    record.standing = true ∧ record.joins winner.id loser.id

instance (conflicts : Conflicts) (winner loser : Row) :
    Decidable (JoinedByRecord conflicts winner loser) := by
  unfold JoinedByRecord
  infer_instance

/-- For a requested demoted row, the lookup returns the rows in scope whose edge
names it, and those that SQL finds newer and some record joins to it. -/
theorem mem_memoryFindSuccessors_iff (winnerMem : winner ∈ memories)
    (loserMem : loser ∈ memories) (requested : loser.id ∈ query.supersedesIds)
    (undeleted : loser.deletedAt = none) (contradicted : loser.contradicted = true) :
    (winner, loser.id) ∈ memoryFindSuccessors memories conflicts query ↔
      query.inScope winner = true ∧ (winner.supersedesId = some loser.id ∨
          winner.supersedesId ≠ some loser.id ∧
            query.reads loser.tenantId = true ∧ createdAfter winner loser = true ∧
            JoinedByRecord conflicts winner loser) := by
  have namesIff : ∀ record, namesWinner query record winner loser = true ↔
      record.tenantId = loser.tenantId ∧ record.standing = true ∧
        query.inScope winner = true ∧ winner.supersedesId ≠ some loser.id ∧
        query.reads loser.tenantId = true ∧ createdAfter winner loser = true := by
    intro record
    simp only [namesWinner, Bool.and_eq_true, beq_iff_eq, bne_iff_ne,
      contains_iff_mem, undeleted, Option.isNone_none, contradicted, requested]
    constructor
    · rintro ⟨⟨⟨⟨⟨⟨⟨⟨reads, tenantEq⟩, stands⟩, _⟩, _⟩, _⟩, after⟩, noEdge⟩, scope⟩
      exact ⟨tenantEq.symm, stands, scope, noEdge, tenantEq ▸ reads, after⟩
    · rintro ⟨tenantEq, stands, scope, noEdge, reads, after⟩
      exact ⟨⟨⟨⟨⟨⟨⟨⟨tenantEq ▸ reads, tenantEq.symm⟩, stands⟩, trivial⟩, trivial⟩,
        trivial⟩, after⟩, noEdge⟩, scope⟩
  simp only [memoryFindSuccessors, mem_append, mem_edgeWinners_iff winnerMem requested,
    mem_recordedWinners_iff winnerMem loserMem, namesIff]
  constructor
  · rintro ((⟨scope, edge⟩ |
      ⟨record, recordMem, newEq, oldEq, tenantEq, stands, scope, noEdge, reads, after⟩) |
      ⟨record, recordMem, oldEq, newEq, tenantEq, stands, scope, noEdge, reads, after⟩)
    · exact ⟨scope, .inl edge⟩
    · exact ⟨scope, .inr ⟨noEdge, reads, after, record, recordMem, tenantEq,
        stands, .inl ⟨newEq, oldEq⟩⟩⟩
    · exact ⟨scope, .inr ⟨noEdge, reads, after, record, recordMem, tenantEq,
        stands, .inr ⟨newEq, oldEq⟩⟩⟩
  · rintro ⟨scope, edge | ⟨noEdge, reads, after, record, recordMem, tenantEq, stands,
      ⟨newEq, oldEq⟩ | ⟨newEq, oldEq⟩⟩⟩
    · exact .inl (.inl ⟨scope, edge⟩)
    · exact .inl (.inr ⟨record, recordMem, newEq, oldEq, tenantEq, stands, scope,
        noEdge, reads, after⟩)
    · exact .inr ⟨record, recordMem, oldEq, newEq, tenantEq, stands, scope, noEdge, reads, after⟩

/-- The lookup tells a reader exactly the rows in scope that beat a requested
demoted row, for exactly these stores: of the rows in scope that are newer and
have no edge to it, those that SQL can compare with it are joined to it by an
applied record whenever some record joins them, and the others by none. -/
theorem successors_are_winners_iff (loserMem : loser ∈ memories)
    (requested : loser.id ∈ query.supersedesIds)
    (undeleted : loser.deletedAt = none) (contradicted : loser.contradicted = true) :
    (∀ winner ∈ memories, ((winner, loser.id) ∈ memoryFindSuccessors memories conflicts query ↔
          query.inScope winner = true ∧ Defeats conflicts loser.tenantId winner loser)) ↔
      ∀ winner ∈ memories, query.inScope winner = true → Older loser winner →
        winner.supersedesId ≠ some loser.id →
        if query.reads loser.tenantId = true ∧ winner.createdAt.isSome = true ∧
            loser.createdAt.isSome = true then
          JoinedByRecord conflicts winner loser → RecordedLoss conflicts loser.tenantId winner loser
        else ¬ RecordedLoss conflicts loser.tenantId winner loser := by
  refine forall₂_congr fun winner winnerMem => ?_
  have joined : RecordedLoss conflicts loser.tenantId winner loser →
      Older loser winner ∧ JoinedByRecord conflicts winner loser := by
    rintro ⟨older, record, recordMem, tenantEq, stands, joins⟩
    rw [Conflict.stands, Bool.and_eq_true] at stands
    exact ⟨older, record, recordMem, tenantEq, stands.1, joins⟩
  rw [mem_memoryFindSuccessors_iff winnerMem loserMem requested undeleted contradicted,
    createdAfter_iff, Defeats]
  split <;> grind

end Query

/-! ## A verdict and a dispute -/

/-- A demoted memory. -/
def staleRow : Row :=
  { id := .ofNat 1, tenantId := "t", agentId := "a", status := .outdated,
    createdAt := some 10 }

/-- A newer memory. -/
def newerRow : Row :=
  { id := .ofNat 2, tenantId := "t", agentId := "b", createdAt := some 20 }

/-- Both of them. -/
def staleStore : Memories :=
  ⟨[staleRow, newerRow], by decide⟩

/-- One record that joins the two, with or without an effect. -/
def newerRecord (effectApplied : Bool) : Conflicts :=
  ⟨[{ id := .ofNat 9, tenantId := "t", newMemoryId := .ofNat 2,
      oldMemoryId := .ofNat 1, effectApplied := some effectApplied,
      createdAt := 21 }], by simp⟩

/-- The query for what replaced the first. -/
def staleQuery : SuccessorQuery :=
  { supersedesIds := [.ofNat 1], tenantId := "t" }

/-- The winner of an applied verdict is returned. -/
theorem successors_of_applied_verdict : (newerRow, staleRow.id) ∈
      memoryFindSuccessors staleStore (newerRecord true) staleQuery := by
  refine ((successors_are_winners_iff mem_cons_self (by decide) rfl rfl).mpr
    ?_ newerRow (by simp [mem_def, staleStore])).mpr ⟨by decide, by decide⟩
  intro winner winnerMem
  rcases mem_pair.mp winnerMem with rfl | rfl
  · decide
  · decide

/-- So is a memory that is merely in dispute with the stale one. -/
theorem successors_of_dispute : (newerRow, staleRow.id) ∈
        memoryFindSuccessors staleStore (newerRecord false) staleQuery ∧
      ¬ Defeats (newerRecord false) staleRow.tenantId newerRow staleRow := by
  decide

end Caura.Memory
