import Caura.Contradiction.Loop

/-!
# The pass over single-valued triples

The deterministic check: the rows of the trigger's own scope that give another
value to the same attribute of the same subject are candidates, and each is
settled by the detection loop.

`rdfConflictPass` is the pass as one call.  The candidates are the answer of
the lookup and the table is the one its flush meets, which may have changed in
between.
-/

namespace Caura.Contradiction

open Caura.Value Caura.Memory

/-! ## Candidates -/

/-- `_fleet_scope`: no fleet and the empty fleet are one scope. -/
def fleetScope (column fleetId : Option String) : Bool :=
  column.getD "" == fleetId.getD ""

/-- The other live rows of the tenant and the fleet. -/
def liveScope (tenantId : String) (fleetId : Option String) (newMemory row : Row) : Bool :=
  row.tenantId == tenantId && row.live && row.id != newMemory.id && fleetScope row.fleetId fleetId

/-- The rows of the trigger's visibility tier, and of its author in the private tier. -/
def tierScope (newMemory row : Row) : Bool :=
  row.visibility == newMemory.visibility &&
    (newMemory.visibility != .scopeAgent || newMemory.agentId == "" ||
      row.agentId == newMemory.agentId)

/-- The rows that detection may compare with the trigger. -/
def detectionScope (tenantId : String) (fleetId : Option String) (newMemory row : Row) : Bool :=
  liveScope tenantId fleetId newMemory row && tierScope newMemory row

/-- `_normalized_object_sql`. -/
def normalizedObject (text : TextOps) (value : String) : String :=
  text.sqlLower (text.sqlSqueeze value)

/-- The row gives another value to the attribute. -/
def competes (text : TextOps) (subject : Uuid) (predicate objectValue : String)
    (row : Row) : Bool :=
  row.subjectEntityId == some subject &&
    (row.predicate.any fun spelling =>
      (predicateCluster text predicate).contains (text.sqlLower spelling)) &&
    row.objectValue.any fun value =>
      normalizedObject text value != normalizedObject text objectValue

/-- `memory_find_rdf_conflicts`, for the triple of the trigger.  The column of the tier is
never null, so the one value that `if visibility` rejects is the empty text. -/
def findRdfConflicts (text : TextOps) (memories : Memories) (tenantId : String)
    (newMemory : Row) (subject : Uuid) (predicate objectValue : String) :
    List Row :=
  memories.select fun row =>
    liveScope tenantId newMemory.fleetId newMemory row &&
      (newMemory.visibility == .other "" || tierScope newMemory row) &&
      competes text subject predicate objectValue row

/-- The triple of a memory whose predicate holds one value at a time. -/
def singleValueTriple (text : TextOps) (row : Row) : Option (Uuid × String × String) :=
  match row.subjectEntityId, row.predicate, row.objectValue with
  | some subject, some predicate, some objectValue =>
    if predicate ≠ "" ∧ objectValue ≠ "" ∧
        singleValuePredicates.contains (text.lower predicate) then
      some (subject, predicate, objectValue)
    else
      none
  | _, _, _ => none

/-- The candidates of the pass: none when the trigger has no such triple. -/
def rdfCandidates (text : TextOps) (memories : Memories) (tenantId : String)
    (newMemory : Row) : List Row :=
  match singleValueTriple text newMemory with
  | some (subject, predicate, objectValue) =>
    findRdfConflicts text memories tenantId newMemory subject predicate
      objectValue
  | none => []

/-! ## The pass -/

/-- `_trust_by_author`, read only when there are rows to compare. -/
def trustByAuthor (agents : Agents) (tenantId : String) (newMemory : Row)
    (rows : List Row) : ByAuthor :=
  if rows.isEmpty then []
  else authorTrust agents tenantId (newMemory.agentId :: rows.map Row.agentId)

/-- What the pass returns. -/
structure PassResult where
  contradictions : List ContradictionInfo := []
  recordPairs : List Pair := []
  supersedesId : Option Uuid
  ran : Bool
  unlinkedPairs : List Pair := []
  disputedPairs : List Pair := []
  byAuthor : ByAuthor := []

/-- The batch of a loop, sent only if there is something to write. -/
def flush (now : Timestamp) (tenantId : String) (updates : Updates)
    (memories : Memories) : Memories × Except StatusError BatchAnswer :=
  if updates.rows.isEmpty then (memories, .ok {})
  else batchUpdateStatus now memories tenantId updates.rows

/-- `_rdf_conflict_pass`, with the rows the lookup answered and the table the
flush meets. -/
def rdfConflictPass (text : TextOps) (agents : Agents) (now : Timestamp)
    (tenantId : String) (newMemory : Row) (supersedesId : Option Uuid)
    (rdfConflicts : List Row) (memories : Memories) :
    Memories × Except StatusError PassResult :=
  match singleValueTriple text newMemory with
  | none => (memories, .ok { supersedesId := supersedesId, ran := false })
  | some _ =>
    let byAuthor := trustByAuthor agents tenantId newMemory rdfConflicts
    let loop := detectionLoop .rdf newMemory byAuthor supersedesId
      (rdfConflicts.map fun row => { row := row })
    match flush now tenantId loop.updates memories with
    | (flushed, .error refusal) => (flushed, .error refusal)
    | (flushed, .ok answer) =>
      (flushed, .ok
        { contradictions := loop.contradictions
          recordPairs := loop.recordPairs
          supersedesId := loop.supersedesId
          ran := true
          unlinkedPairs :=
            unlinkedPairs newMemory loop.recordPairs loop.updates answer
          disputedPairs := loop.disputed
          byAuthor := byAuthor })

/-! ## A slot -/

/-- A memory that gives a value to one attribute of one subject. -/
def slotRow (id : Uuid) (created : Timestamp) (value : String) : Row where
  id := id
  tenantId := "t"
  agentId := "a"
  createdAt := some created
  subjectEntityId := some (.ofNat 9)
  predicate := some "status"
  objectValue := some value

end Caura.Contradiction
