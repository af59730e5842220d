import Caura.Memory.Store
import Caura.Memory.Successors

/-!
# Readers see only their own view

Three statements read memories for a caller: the scored search with its list of
named filters, the load by ids, and the lookup of successors.  Each conjoins the
same scope to its own conditions.  So none of them returns a row outside the
reader's view, and what they return does not depend on such rows at all: two
stores that agree on the view answer alike.

The full-text match of a row is a parameter, since it is the database that
evaluates it.
-/

namespace Caura.Memory

open Caura.Relation Caura.Value List Table

/-! ## Readers -/

/-- The arguments that the three statements share.  A request without a tenant is
refused before it reads. -/
structure Reader extends ReadScope where
  tenantGiven : tenantId ≠ ""

namespace Reader

/-- The lookup of the successors of the given rows. -/
def query (reader : Reader) (supersedesIds : List Uuid) : SuccessorQuery :=
  { reader.toReadScope with supersedesIds }

/-- The row is in the reader's view: in a readable tenant, neither deleted nor
held, and shared or written by the reader's agent in its home tenant. -/
structure Visible (reader : Reader) (row : Row) : Prop where
  tenant : reader.reads row.tenantId = true
  undeleted : row.deletedAt = none
  released : row.status ≠ .quarantined
  shown : row.visibility = .scopeTeam ∨ row.visibility = .scopeOrg ∨
    row.visibility = .scopeAgent ∧ given reader.callerAgentId = some row.agentId ∧
      row.tenantId = reader.homeTenant

end Reader

/-! ## Statements -/

/-- A filter that an optional argument adds. -/
def filterIf (name : String) (argument : Option α) (condition : α → Row → Bool) :
    List (String × (Row → Bool)) :=
  match argument with
  | some value => [(name, condition value)]
  | none => []

/-- The arguments of the scored search besides the reader: the full-text match of a
row, the status filter, and whether the query asks for history. -/
structure SearchQuery where
  ftsGuard : Row → Bool
  statusFilter : Option String := none
  historyQuery : Bool := false

/-- The filter on superseded rows, unless a status is asked for or history is. -/
def statusFilters (search : SearchQuery) : List (String × (Row → Bool)) :=
  match given search.statusFilter with
  | some status => [("status_filter", fun row => row.status.text == status)]
  | none =>
    if search.historyQuery then
      []
    else
      [("status_superseded", fun row =>
        !row.contradicted || (row.status == .conflicted && search.ftsGuard row))]

/-- `_scored_search_row_filters`: each filter with the name of what it removes. -/
def scoredSearchRowFilters (reader : Reader) (search : SearchQuery) :
    List (String × (Row → Bool)) :=
  [("tenant_scope", fun row => reader.reads row.tenantId),
    ("deleted", fun row => row.deletedAt.isNone),
    ("held", fun row => row.status != .quarantined),
    ("embedding_missing", fun row => row.embedded || search.ftsGuard row)] ++
  (if reader.fleetIds.isEmpty then []
    else [("fleet_scope", fleetScopeClause reader.fleetIds reader.strictFleetScoping)]) ++
  [("visibility_scope", visibilityScopeClause reader.callerAgentId (some reader.homeTenant))] ++
  filterIf "agent_filter" (given reader.filterAgentId)
    (fun agentId row => row.agentId == agentId) ++
  filterIf "memory_type_filter" (given reader.memoryTypeFilter)
    (fun type row => row.memoryType == type) ++
  (if reader.verifiedOnly then [("verified_only", verifiedClause)] else []) ++
  filterIf "baton_id" (given reader.batonId) batonClause ++
  statusFilters search ++
  filterIf "temporal_valid_at" reader.validAt startedBy

/-- The rows that pass every filter of the scored search. -/
def scoredSearchRows (memories : Memories) (reader : Reader) (search : SearchQuery) : List Row :=
  memories.select fun row =>
    (scoredSearchRowFilters reader search).all fun filter => filter.2 row

/-- The conditions of the load by ids. -/
def loadCondition (memoryIds : List Uuid) (reader : Reader)
    (statusFilter : Option String) (row : Row) : Bool :=
  memoryIds.contains row.id && reader.reads row.tenantId && row.deletedAt.isNone &&
    row.status != .quarantined &&
    (reader.fleetIds.isEmpty || fleetScopeClause reader.fleetIds reader.strictFleetScoping row) &&
    visibilityScopeClause reader.callerAgentId (some reader.homeTenant) row &&
    ((given reader.filterAgentId).all fun agentId => row.agentId == agentId) &&
    ((given reader.memoryTypeFilter).all fun type => row.memoryType == type) &&
    (!reader.verifiedOnly || verifiedClause row) &&
    ((given reader.batonId).all fun batonId => batonClause batonId row) &&
    (match given statusFilter with
      | some status => row.status.text == status
      | none => row.status != .outdated) &&
    reader.validAt.all fun validAt => startedBy validAt row

/-- `memory_load_by_ids`. -/
def memoryLoadByIds (memories : Memories) (memoryIds : List Uuid) (reader : Reader)
    (statusFilter : Option String) : List Row :=
  memories.select (loadCondition memoryIds reader statusFilter)

/-! ## Views -/

section Views

variable {reader : Reader} {row : Row} {argument statusFilter : Option String}

theorem given_eq_some_iff {text : String} :
    given argument = some text ↔ argument = some text ∧ text ≠ "" := by
  simp [given]

/-- The home tenant is given, since the reader's tenant is. -/
theorem given_homeTenant (reader : Reader) :
    given (some reader.homeTenant) = some reader.homeTenant := by
  refine given_eq_some_iff.mpr ⟨rfl, ?_⟩
  unfold ReadScope.homeTenant
  cases callerTenant : given reader.callerTenantId with
  | none => exact reader.tenantGiven
  | some tenantId => exact (given_eq_some_iff.mp callerTenant).2

/-- The visibility clause for the reader admits what is shared and what is its
own. -/
theorem shown_of_visibilityScopeClause
    (admitted : visibilityScopeClause reader.callerAgentId (some reader.homeTenant) row = true) :
    row.visibility = .scopeTeam ∨ row.visibility = .scopeOrg ∨
      row.visibility = .scopeAgent ∧ given reader.callerAgentId = some row.agentId ∧
        row.tenantId = reader.homeTenant := by
  unfold visibilityScopeClause at admitted
  split at admitted
  next noAgent =>
    simp only [contains_cons, contains_nil, Bool.or_false, Bool.or_eq_true, beq_iff_eq] at admitted
    rcases admitted with team | org
    · exact .inl team
    · exact .inr (.inl org)
  next agentId isAgent =>
    rw [given_homeTenant] at admitted
    simp only [Bool.or_eq_true, Bool.and_eq_true, beq_iff_eq, Option.all_some] at admitted
    rcases admitted with (org | team) | ⟨⟨ownScope, sameAgent⟩, sameTenant⟩
    · exact .inr (.inl org)
    · exact .inl team
    · exact .inr (.inr ⟨ownScope, sameAgent ▸ isAgent, sameTenant⟩)

/-- A row that passes the conditions common to the statements is in the view. -/
theorem visible_of_clauses (tenant : reader.reads row.tenantId = true)
    (undeleted : row.deletedAt.isNone = true)
    (released : (row.status != .quarantined) = true)
    (admitted : visibilityScopeClause reader.callerAgentId (some reader.homeTenant) row =
      true) : reader.Visible row :=
  ⟨tenant, Option.isNone_iff_eq_none.mp undeleted, bne_iff_ne.mp released,
    shown_of_visibilityScopeClause admitted⟩

/-- A row that passes the search is in the reader's view. -/
theorem visible_of_scoredSearch {search : SearchQuery}
    (passes : ((scoredSearchRowFilters reader search).all fun filter => filter.2 row) =
      true) : reader.Visible row := by
  rw [all_eq_true] at passes
  have tenant := passes ("tenant_scope", fun row => reader.reads row.tenantId)
    (by simp [scoredSearchRowFilters])
  have undeleted := passes ("deleted", fun row => row.deletedAt.isNone)
    (by simp [scoredSearchRowFilters])
  have released := passes ("held", fun row => row.status != .quarantined)
    (by simp [scoredSearchRowFilters])
  have admitted := passes ("visibility_scope",
    visibilityScopeClause reader.callerAgentId (some reader.homeTenant))
    (by simp [scoredSearchRowFilters])
  exact visible_of_clauses tenant undeleted released admitted

/-- A row that passes the load by ids is in the reader's view. -/
theorem visible_of_loadCondition {memoryIds : List Uuid}
    (passes : loadCondition memoryIds reader statusFilter row = true) : reader.Visible row := by
  simp only [loadCondition, Bool.and_eq_true] at passes
  rcases passes with
    ⟨⟨⟨⟨⟨⟨⟨⟨⟨⟨⟨_, tenant⟩, undeleted⟩, released⟩, _⟩, admitted⟩, _⟩, _⟩, _⟩, _⟩, _⟩, _⟩
  exact visible_of_clauses tenant undeleted released admitted

/-- A row in the scope of the successor lookup is in the reader's view. -/
theorem visible_of_inScope {supersedesIds : List Uuid}
    (scope : (reader.query supersedesIds).inScope row = true) : reader.Visible row := by
  simp only [SuccessorQuery.inScope, Reader.query, Bool.and_eq_true,
    Option.isNone_iff_eq_none] at scope
  obtain ⟨⟨⟨⟨⟨⟨⟨⟨⟨tenant, status⟩, undeleted⟩, admitted⟩, _⟩, _⟩, _⟩, _⟩, _⟩, _⟩ := scope
  refine ⟨tenant, undeleted, ?_, shown_of_visibilityScopeClause admitted⟩
  intro held
  rw [held] at status
  simp at status

end Views

/-! ## Two stores -/

section Stores

variable {reader : Reader} {first second : Memories} {conflicts : Conflicts}
  {requested : List Uuid}

/-- The stores agree on the reader's view. -/
def Reader.Agree (reader : Reader) (first second : Memories) : Prop :=
  ∀ row, reader.Visible row → (row ∈ first ↔ row ∈ second)

theorem Reader.Agree.symm (agree : reader.Agree first second) : reader.Agree second first :=
  fun row visible => (agree row visible).symm

/-- The ids are of rows in the reader's view. -/
def Reader.Requests (reader : Reader) (memories : Memories) (requested : List Uuid) : Prop :=
  ∀ id ∈ requested, ∃ row ∈ memories, row.id = id ∧ reader.Visible row

theorem Reader.Requests.of_agree (requests : reader.Requests first requested)
    (agree : reader.Agree first second) : reader.Requests second requested := by
  intro id idMem
  obtain ⟨row, rowMem, idEq, visible⟩ := requests id idMem
  exact ⟨row, (agree row visible).mp rowMem, idEq, visible⟩

/-- A requested row is in the reader's view. -/
theorem Reader.Requests.visible (requests : reader.Requests first requested) {row : Row}
    (rowMem : row ∈ first) (idMem : row.id ∈ requested) : reader.Visible row := by
  obtain ⟨other, otherMem, idEq, visible⟩ := requests row.id idMem
  rwa [← eq_of_key_eq otherMem rowMem idEq]

variable {pair : Row × Uuid} {memories : Memories} {query : SuccessorQuery}

/-- A row found by its edge is in the table and in scope. -/
theorem of_mem_edgeWinners (returned : pair ∈ edgeWinners memories query) :
    pair.1 ∈ memories ∧ query.inScope pair.1 = true ∧
      pair.1.supersedesId = some pair.2 ∧ pair.2 ∈ query.supersedesIds := by
  obtain ⟨row, rowMem, found⟩ := mem_filterMap.mp returned
  split at found
  next target edge =>
    split at found
    next holds =>
      cases found
      rw [Bool.and_eq_true, contains_iff_mem] at holds
      exact ⟨rowMem, holds.2, edge, holds.1⟩
    · contradiction
  · contradiction

/-- A row found by a record is the winner it names, in scope, over a requested
row. -/
theorem of_mem_recordedWinners {loserSide winnerSide : Conflict → Uuid}
    (returned : pair ∈ recordedWinners memories conflicts query loserSide winnerSide) :
    ∃ loser ∈ memories, pair.2 = loser.id ∧ loser.id ∈ query.supersedesIds ∧
      pair.1 ∈ memories ∧ query.inScope pair.1 = true := by
  obtain ⟨record, _, found⟩ := mem_filterMap.mp returned
  split at found
  next winner loser winnerFound loserFound =>
    split at found
    next holds =>
      cases found
      simp only [namesWinner, Bool.and_eq_true, contains_iff_mem] at holds
      exact ⟨loser, (lookup_eq_some_iff.mp loserFound).1, rfl,
        holds.1.1.1.1.1.2, (lookup_eq_some_iff.mp winnerFound).1, holds.2⟩
    · contradiction
  · contradiction

theorem edgeWinners_subset (agree : reader.Agree first second) :
    edgeWinners first (reader.query requested) ⊆ edgeWinners second (reader.query requested) := by
  rintro ⟨winner, target⟩ returned
  obtain ⟨winnerMem, scope, edge, targetMem⟩ := of_mem_edgeWinners returned
  dsimp only at winnerMem scope edge targetMem
  have winnerThere := (agree winner (visible_of_inScope scope)).mp winnerMem
  refine mem_filterMap.mpr ⟨winner, winnerThere, ?_⟩
  simp [edge, scope, targetMem]

section

variable (agree : reader.Agree first second) (requests : reader.Requests first requested)

include agree requests

theorem recordedWinners_subset (loserSide winnerSide : Conflict → Uuid) :
    recordedWinners first conflicts (reader.query requested) loserSide winnerSide ⊆
      recordedWinners second conflicts (reader.query requested) loserSide winnerSide := by
  rintro ⟨winner, target⟩ returned
  rcases of_mem_recordedWinners returned with
    ⟨loser, loserMem, rfl, loserRequested, winnerMem, scope⟩
  -- Both sides of the record are in the view: the winner by its scope, the loser
  -- because it was asked for.
  have winnerThere := (agree winner (visible_of_inScope scope)).mp winnerMem
  have loserThere := (agree loser (requests.visible loserMem loserRequested)).mp loserMem
  rw [mem_recordedWinners_iff winnerMem loserMem] at returned
  exact (mem_recordedWinners_iff winnerThere loserThere).mpr returned

theorem memoryFindSuccessors_subset :
    memoryFindSuccessors first conflicts (reader.query requested) ⊆
      memoryFindSuccessors second conflicts (reader.query requested) := by
  intro pair pairMem
  simp only [memoryFindSuccessors, mem_append] at pairMem ⊢
  rcases pairMem with (edge | old) | new
  · exact .inl (.inl (edgeWinners_subset agree edge))
  · exact .inl (.inr (recordedWinners_subset agree requests _ _ old))
  · exact .inr (recordedWinners_subset agree requests _ _ new)

end

/-- A returned successor is in the reader's view. -/
theorem visible_of_mem_memoryFindSuccessors
    (returned : pair ∈ memoryFindSuccessors first conflicts (reader.query requested)) :
    reader.Visible pair.1 := by
  simp only [memoryFindSuccessors, mem_append] at returned
  rcases returned with (edge | old) | new
  · exact visible_of_inScope (of_mem_edgeWinners edge).2.1
  · obtain ⟨_, _, _, _, _, scope⟩ := of_mem_recordedWinners old
    exact visible_of_inScope scope
  · obtain ⟨_, _, _, _, _, scope⟩ := of_mem_recordedWinners new
    exact visible_of_inScope scope

/-- Two stores that agree on what the reader sees answer its search, its load by ids
and its lookup of successors with the same rows, and only with rows it sees. -/
theorem readers_isolated (reader : Reader) (search : SearchQuery)
    (statusFilter : Option String) (requested : List Uuid) (first second : Memories)
    (conflicts : Conflicts) (agree : reader.Agree first second)
    (requests : reader.Requests first requested) :
    (∀ row, row ∈ scoredSearchRows first reader search ↔
      row ∈ scoredSearchRows second reader search) ∧
    (∀ row, row ∈ memoryLoadByIds first requested reader statusFilter ↔
      row ∈ memoryLoadByIds second requested reader statusFilter) ∧
    (∀ pair, pair ∈ memoryFindSuccessors first conflicts (reader.query requested) ↔
      pair ∈ memoryFindSuccessors second conflicts (reader.query requested)) ∧
    (∀ row ∈ scoredSearchRows first reader search, reader.Visible row) ∧
    (∀ row ∈ memoryLoadByIds first requested reader statusFilter, reader.Visible row) ∧
    ∀ pair ∈ memoryFindSuccessors first conflicts (reader.query requested),
      reader.Visible pair.1 := by
  refine ⟨?_, ?_, ?_, ?_, ?_, ?_⟩
  · exact mem_select_iff_of_agree agree fun _ => visible_of_scoredSearch
  · exact mem_select_iff_of_agree agree fun _ => visible_of_loadCondition
  · intro pair
    constructor
    · exact fun returned => memoryFindSuccessors_subset agree requests returned
    · exact fun returned =>
        memoryFindSuccessors_subset agree.symm (requests.of_agree agree) returned
  · intro row found
    exact visible_of_scoredSearch (mem_select_iff.mp found).2
  · intro row loaded
    exact visible_of_loadCondition (mem_select_iff.mp loaded).2
  · intro pair returned
    exact visible_of_mem_memoryFindSuccessors returned

end Stores

/-! ## A held row beside the view -/

/-- A reader of the demoted memory's tenant. -/
def staleReader : Reader :=
  { tenantId := "t", tenantGiven := by decide }

/-- A held memory that names the demoted one. -/
def heldSuccessor : Row :=
  { id := .ofNat 3, tenantId := "t", agentId := "c", status := .quarantined,
    supersedesId := some (.ofNat 1), createdAt := some 30 }

/-- The two memories, with the held one. -/
def heldStore : Memories :=
  ⟨[staleRow, newerRow, heldSuccessor], by decide⟩

theorem staleReader_agree : staleReader.Agree staleStore heldStore := by
  intro row visible
  simp only [mem_def, staleStore, heldStore, mem_cons, not_mem_nil, or_false]
  constructor
  · rintro (stale | newer)
    · exact .inl stale
    · exact .inr (.inl newer)
  · rintro (stale | newer | rfl)
    · exact .inl stale
    · exact .inr newer
    · exact absurd rfl visible.released

theorem staleReader_requests : staleReader.Requests staleStore [staleRow.id] := by
  intro id idMem
  refine ⟨staleRow, .head _, (mem_singleton.mp idMem).symm, ?_⟩
  exact ⟨by decide, rfl, by decide, .inl rfl⟩

/-- The reader is told the recorded winner and not the held row. -/
theorem readers_isolated_from_held :
    (newerRow, staleRow.id) ∈ memoryFindSuccessors heldStore (newerRecord true)
        (staleReader.query [staleRow.id]) ∧
      (heldSuccessor, staleRow.id) ∉ memoryFindSuccessors heldStore
        (newerRecord true) (staleReader.query [staleRow.id]) := by
  have isolated := readers_isolated staleReader { ftsGuard := fun _ => false } none
    [staleRow.id] staleStore heldStore (newerRecord true) staleReader_agree
    staleReader_requests
  constructor
  · exact (isolated.2.2.1 _).mp (by decide)
  · intro returned
    exact absurd rfl (isolated.2.2.2.2.2 _ ((isolated.2.2.1 _).mpr returned)).released

end Caura.Memory
