import Caura.Memory.Store

/-!
# A detection pass

Contradiction detection compares one memory, the trigger of the pass, with the
candidates that may contradict it.  Three loops share one body: the check of
single-valued triples, the semantic check and the check by shared entities.
They differ in the status they put on a loser and in where their candidates
come from, so the body is one definition with the kind of the loop as a
parameter.

The loop decides and accumulates; nothing is written until it is over.  Its
writes are merged to one per memory, flushed in one batch, and the confirmed
pairs whose loser no edge of the flush points at are recorded instead.
-/

namespace Caura.Contradiction

open Caura.Relation Caura.Value Caura.Memory

/-! ## Trust -/

/-- The trust level of each agent of each tenant, if it has a row. -/
abbrev Agents := String → String → Option Int

/-- Author to trust level. -/
abbrev ByAuthor := List (String × Int)

/-- `author_trust`: each distinct author's level, 0 without a row. -/
def authorTrust (agents : Agents) (tenantId : String) (agentIds : List String) : ByAuthor :=
  (agentIds.filter fun agentId => agentId ≠ "").dedup.map fun agentId =>
    (agentId, (agents tenantId agentId).getD 0)

/-- `row_trust`: a derived row has the level recorded on it, any other row the
level of its author. -/
def rowTrust (row : Row) (byAuthor : ByAuthor) : Int :=
  if row.isInferred then row.sourceTrust.getD 0
  else (byAuthor.lookup row.agentId).getD 0

/-- `_outranked`: the newer row's author is trusted less than the older's. -/
def outranked (older newer : Row) (byAuthor : ByAuthor) : Bool :=
  rowTrust newer byAuthor < rowTrust older byAuthor

/-! ## The three loops -/

/-- Which loop confirmed a pair. -/
inductive Kind where
  | rdf
  | semantic
  | entity
  deriving DecidableEq, Repr

/-- The status a loop puts on the loser of a pair. -/
def Kind.demoted : Kind → Status
  | .rdf => .outdated
  | .semantic => .conflicted
  | .entity => .conflicted

/-- Why a contradiction is reported. -/
inductive Reason where
  | rdfConflict
  | semanticConflict
  deriving DecidableEq, Repr

/-- The reason a loop reports; the entity loop reports nothing. -/
def Kind.reason : Kind → Option Reason
  | .rdf => some .rdfConflict
  | .semantic => some .semanticConflict
  | .entity => none

/-- Whether the candidate lost to the trigger, or the trigger to it. -/
inductive Direction where
  | canonical
  | flipped
  deriving DecidableEq, Repr

/-- What is reported about one confirmed pair. -/
structure ContradictionInfo where
  oldMemoryId : Uuid
  oldStatus : Status
  reason : Reason
  oldContentPreview : String
  direction : Direction
  deriving DecidableEq, Repr

/-- A candidate with the confidence of the judge, if one was asked. -/
structure Candidate where
  row : Row
  confidence : Option Rat := none
  deriving DecidableEq

/-- A pair the loop settled, named by its candidate. -/
structure Pair where
  candidate : Row
  kind : Kind
  confidence : Option Rat
  deriving DecidableEq

/-! ## Merged updates -/

/-- Updates to flush, one for each memory. -/
abbrev Updates := Table Update Update.memoryId

/-- The fields of `later` over those of `update`, as `dict.update` does. -/
def mergeUpdate (update later : Update) : Update where
  memoryId := update.memoryId
  status := later.status
  supersedesId := later.supersedesId.or update.supersedesId
  unsetSupersedes := later.unsetSupersedes || update.unsetSupersedes
  expectedSupersedesId :=
    later.expectedSupersedesId.or update.expectedSupersedesId
  expectSupersedesNull :=
    later.expectSupersedesNull || update.expectSupersedesNull

theorem mergeUpdate_memoryId (update later : Update) :
    (mergeUpdate update later).memoryId = update.memoryId :=
  rfl

/-- `_merge_status_update`. -/
def mergeStatusUpdate (updates : Updates) (row : Update) : Updates :=
  if seen : row.memoryId ∈ updates.rows.map Update.memoryId then
    updates.modify (fun update => update.memoryId == row.memoryId)
      (fun update => mergeUpdate update row)
      fun update => mergeUpdate_memoryId update row
  else
    updates.insert row seen

/-! ## The loop -/

/-- What a loop has accumulated. -/
structure LoopState where
  supersedesId : Option Uuid
  newMemoryIsOutdated : Bool := false
  updates : Updates := Table.empty
  contradictions : List ContradictionInfo := []
  recordPairs : List Pair := []
  disputed : List Pair := []

/-- The candidate is older: the trigger takes the edge, unless it has one. -/
def linkCanonical (kind : Kind) (newMemory older : Row) (state : LoopState) : LoopState :=
  match state.supersedesId with
  | some _ => state
  | none =>
    { state with
      supersedesId := some older.id
      updates := mergeStatusUpdate state.updates
        { memoryId := newMemory.id
          status :=
            if state.newMemoryIsOutdated then kind.demoted
            else newMemory.status
          supersedesId := some older.id
          expectSupersedesNull := true } }

/-- The candidate is newer: it takes the edge to the trigger, unless it had one
when it was read. -/
def linkFlipped (newer older : Row) (state : LoopState) : LoopState :=
  let state := { state with newMemoryIsOutdated := true }
  match newer.supersedesId with
  | some _ => state
  | none =>
    { state with
      updates := mergeStatusUpdate state.updates
        { memoryId := newer.id
          status := newer.status
          supersedesId := some older.id
          expectSupersedesNull := true } }

/-- The first 200 characters of a memory's content. -/
def preview (row : Row) : String :=
  String.ofList (row.content.toList.take 200)

/-- What a confirmed pair reports. -/
def contradictionInfo (kind : Kind) (old : Row) (direction : Direction) :
    Option ContradictionInfo :=
  kind.reason.map fun reason =>
    { oldMemoryId := old.id
      oldStatus :=
        match direction with
        | .canonical => kind.demoted
        | .flipped => old.status
      reason := reason
      oldContentPreview := preview old
      direction := direction }

/-- One iteration: decide the direction, set aside an outranked pair, demote
the older row and wire the edge. -/
def considerCandidate (kind : Kind) (newMemory : Row) (byAuthor : ByAuthor)
    (state : LoopState) (found : Candidate) : LoopState :=
  let old := found.row
  let older := pickOlder old newMemory
  let olderIsNew := older.id == newMemory.id
  let newer := if olderIsNew then old else newMemory
  let pair : Pair := ⟨old, kind, found.confidence⟩
  if outranked older newer byAuthor then
    { state with disputed := state.disputed ++ [pair] }
  else
    let demoted := { state with
      updates := mergeStatusUpdate state.updates
        { memoryId := older.id, status := kind.demoted } }
    let linked :=
      if olderIsNew then linkFlipped newer older demoted
      else linkCanonical kind newMemory older demoted
    let direction := if olderIsNew then Direction.flipped else .canonical
    { linked with
      contradictions := linked.contradictions ++ (contradictionInfo kind old direction).toList
      recordPairs := linked.recordPairs ++ [pair] }

/-- The whole loop, from the edge the trigger has. -/
def detectionLoop (kind : Kind) (newMemory : Row) (byAuthor : ByAuthor)
    (supersedesId : Option Uuid) (candidates : List Candidate) : LoopState :=
  candidates.foldl (considerCandidate kind newMemory byAuthor)
    { supersedesId := supersedesId }

/-! ## After the flush -/

/-- `_unlinked_pairs`: the confirmed pairs whose loser no edge of this flush
points at. -/
def unlinkedPairs (newMemory : Row) (pairs : List Pair) (updates : Updates)
    (flushed : BatchAnswer) : List Pair :=
  let lost := flushed.skipped ++ flushed.edgeSkipped
  let linked := (updates.rows.filter fun update =>
    !lost.contains update.memoryId).filterMap Update.supersedesId
  pairs.filter fun pair =>
    !linked.contains (pickOlder pair.candidate newMemory).id

/-- A conflict record as it is posted, less its classification. -/
structure ConflictPayload where
  tenantId : String
  fleetId : Option String
  newMemoryId : Uuid
  oldMemoryId : Uuid
  effectApplied : Bool
  /-- How far the two rows are trusted, the trigger first. -/
  authorTrust : Int × Int
  deriving DecidableEq, Repr

/-- `record_conflict`, for one pair. -/
def conflictPayload (tenantId : String) (newMemory : Row)
    (byAuthor : ByAuthor) (outranked : Bool) (pair : Pair) : ConflictPayload where
  tenantId := tenantId
  fleetId := newMemory.fleetId
  newMemoryId := newMemory.id
  oldMemoryId := pair.candidate.id
  effectApplied := !outranked
  authorTrust := (rowTrust newMemory byAuthor, rowTrust pair.candidate byAuthor)

/-- `_record_conflicts`: the records a loop posts after its flush.  The first
argument is the setting `contradiction_write_conflict_record`. -/
def recordConflicts (writeConflictRecord : Bool) (tenantId : String)
    (newMemory : Row) (byAuthor : ByAuthor) (pairs unlinked disputed : List Pair) :
    List ConflictPayload :=
  let toRecord := if writeConflictRecord then pairs else unlinked
  toRecord.map (conflictPayload tenantId newMemory byAuthor false) ++
    disputed.map (conflictPayload tenantId newMemory byAuthor true)

/-- `POST /memories/conflicts`: the record is stored when both memories can be
read in its tenant, and refused with 404 otherwise. -/
def recordMemoryConflict (memories : Memories) (payload : ConflictPayload) :
    Option ConflictPayload :=
  if (getMemory memories payload.newMemoryId payload.tenantId).isSome &&
      (getMemory memories payload.oldMemoryId payload.tenantId).isSome then
    some payload
  else
    none

end Caura.Contradiction
