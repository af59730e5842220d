import Caura.EntityGraph.Merge

/-!
# Dropping a memory and what was mined from it

`memory_drop` soft-deletes a memory that a policy dropped and clears its text.
`memory_purge_entity_artifacts` then removes what the memory contributed to the graph: its
links, its assertions of relations, the relations that nobody else asserts, and the
entities that nothing refers to any more.  It runs only on a memory that is soft-deleted.

The deletion is shared with two other callers, which differ in the memories they accept,
in the links they take and in whether the memories themselves are about to go.
-/

namespace Caura.EntityGraph

open Caura.Memory (Row Timestamp)
open Caura.Relation (Table)
open Caura.Value

/-! ## The drop -/

/-- The columns that a drop writes.  Of the metadata only the lineage is kept. -/
def dropRow (now : Timestamp) (memory : Row) : Row :=
  { memory with
    content := ""
    embedded := false
    predicate := none
    objectValue := none
    sourceTrust := none
    sessionId := none
    batonId := none
    deletedAt := some (memory.deletedAt.getD now)
    status := .deleted }

/-- `memory_drop`: the store it leaves, and whether a row matched. -/
def memoryDrop (tenantId : String) (memoryId : Uuid) (now : Timestamp) (store : Store) :
    Store × Bool :=
  let selects (memory : Row) : Bool :=
    memory.tenantId == tenantId && memory.id == memoryId && memory.status != .quarantined
  ({ store with memories := store.memories.modify selects (dropRow now) fun _ => rfl },
    store.memories.rows.any selects)

/-! ## The deletion -/

/-- The relation with another memory as its evidence. -/
def Relation.withEvidence (memoryId : Option Uuid) (relation : Relation) : Relation :=
  { relation with evidenceMemoryId := memoryId }

@[simp]
theorem Relation.id_withEvidence (memoryId : Option Uuid) (relation : Relation) :
    (relation.withEvidence memoryId).id = relation.id :=
  rfl

@[simp]
theorem Relation.toNaturalKey_withEvidence (memoryId : Option Uuid) (relation : Relation) :
    (relation.withEvidence memoryId).toNaturalKey = relation.toNaturalKey :=
  rfl

/-- An entity with the id exists and satisfies the condition. -/
def Store.selectsEntity (store : Store) (condition : Entity → Bool) (entityId : Uuid) : Bool :=
  store.entities.rows.any fun entity => entity.id == entityId && condition entity

theorem id_withoutSubject (memory : Row) : { memory with subjectEntityId := none }.id = memory.id :=
  rfl

/-- Delete entities, with what the foreign keys do to rows that refer to them. -/
def Store.deleteEntities (store : Store) (condition : Entity → Bool) : Store :=
  let cascaded := store.deleteRelations fun relation =>
    store.selectsEntity condition relation.fromEntityId ||
      store.selectsEntity condition relation.toEntityId
  { cascaded with
    entities := store.entities.delete condition
    links := store.links.delete fun link => store.selectsEntity condition link.entityId
    memories := store.memories.modify
      (fun memory => memory.subjectEntityId.any (store.selectsEntity condition))
      (fun memory => { memory with subjectEntityId := none }) id_withoutSubject }

/-- The parameters of `_delete_entity_artifacts`. -/
structure ArtifactDelete where
  tenantId : String
  memoryIds : List Uuid
  eligibility : Row → Bool
  linkScope : Link → Bool := fun _ => true
  memoriesGoing : Bool := false

/-- The number of rows that were deleted. -/
structure ArtifactCounts where
  links : Nat := 0
  relations : Nat := 0
  entities : Nat := 0
  deriving DecidableEq, Repr

namespace ArtifactDelete

variable (delete : ArtifactDelete)

/-- The given memories of the tenant that are eligible. -/
def eligibleIds (store : Store) : List Uuid :=
  delete.memoryIds.filter fun memoryId => store.memories.rows.any fun memory =>
    memory.id == memoryId && memory.tenantId == delete.tenantId && delete.eligibility memory

variable (memoryIds : List Uuid)

/-- The subjects of the memories, if these are going. -/
def subjectCandidates (store : Store) : List Uuid :=
  if delete.memoriesGoing then
    (store.memories.rows.filter fun memory =>
      memory.tenantId == delete.tenantId && memoryIds.contains memory.id).filterMap
        Row.subjectEntityId
  else
    []

/-- The link is deleted. -/
def takesLink (link : Link) : Bool :=
  memoryIds.contains link.memoryId && delete.linkScope link

/-- The entities of the links that are deleted. -/
def linkCandidates (store : Store) : List Uuid :=
  (store.links.rows.filter (delete.takesLink memoryIds)).map fun link => link.entityId

/-- Delete the links and the assertions of the memories. -/
def deleteAssertions (store : Store) : Store :=
  { store with
    links := store.links.delete (delete.takesLink memoryIds)
    evidence := store.evidence.filter fun row => !memoryIds.contains row.2 }

/-- The newest first, then the smaller id. -/
def newestFirst (first second : Row) : Bool :=
  first.newestFirst second (first.id.value ≤ second.id.value)

/-- The live memories of the tenant that assert a relation. -/
def asserters (store : Store) (relation : Relation) : List Row :=
  store.memories.rows.filter fun memory =>
    (relation.id, memory.id) ∈ store.evidence && memory.tenantId == delete.tenantId && memory.live

/-- The newest of them. -/
def replacement (store : Store) (relation : Relation) : Option Uuid :=
  ((delete.asserters store relation).insertionSort fun first second =>
    newestFirst first second).head?.map Row.id

/-- The evidence of the relation is one of the memories. -/
def isAffected (relation : Relation) : Bool :=
  relation.tenantId == delete.tenantId && relation.evidenceMemoryId.any memoryIds.contains

/-- The affected relations that nobody else asserts. -/
def relationIdsToDelete (store : Store) : List Uuid :=
  (store.relations.rows.filter fun relation =>
    delete.isAffected memoryIds relation && (delete.replacement store relation).isNone).map
      Relation.id

/-- Give the other affected relations a new evidence. -/
def repointEvidence (store : Store) : Store :=
  { store with
    relations := store.relations.modify (fun relation => delete.isAffected memoryIds relation &&
        (delete.replacement store relation).isSome)
      (fun relation => relation.withEvidence (delete.replacement store relation))
      (fun relation => relation.id_withEvidence _)
    naturalKeys := by
      rw [Table.map_modify _ _ _ _ fun relation => relation.toNaturalKey_withEvidence _]
      exact store.naturalKeys }

/-- Repoint the evidence and delete what has none. -/
def clearRelations (store : Store) : Store :=
  (delete.repointEvidence memoryIds store).deleteRelations fun relation =>
    (delete.relationIdsToDelete memoryIds store).contains relation.id

/-- The memory counts as a reference to its subject. -/
def refersToSubject (memory : Row) : Bool :=
  memory.tenantId == delete.tenantId && !(delete.memoriesGoing && memoryIds.contains memory.id)

/-- The entity is a candidate that no link, relation or subject refers to. -/
def isOrphan (candidates : List Uuid) (store : Store) (entity : Entity) : Bool :=
  entity.tenantId == delete.tenantId && candidates.contains entity.id &&
    !(store.links.rows.any fun link => link.entityId == entity.id) &&
    !(store.relations.rows.any fun relation => relation.fromEntityId == entity.id) &&
    !(store.relations.rows.any fun relation => relation.toEntityId == entity.id) &&
    !(store.memories.rows.any fun memory =>
      memory.subjectEntityId == some entity.id && delete.refersToSubject memoryIds memory)

/-- `_delete_entity_artifacts`. -/
def deleteEntityArtifacts (store : Store) : Store × ArtifactCounts :=
  let memoryIds := delete.eligibleIds store
  if memoryIds.isEmpty then
    (store, {})
  else
    let candidates := delete.linkCandidates memoryIds store ++
      delete.subjectCandidates memoryIds store
    let unasserted := delete.deleteAssertions memoryIds store
    let cleared := delete.clearRelations memoryIds unasserted
    let isOrphan := delete.isOrphan memoryIds candidates cleared
    (cleared.deleteEntities isOrphan,
      { links := (delete.linkCandidates memoryIds store).length
        relations := (delete.relationIdsToDelete memoryIds unasserted).length
        entities := (cleared.entities.rows.filter isOrphan).length })

end ArtifactDelete

/-- The deletion for one soft-deleted memory. -/
def ArtifactDelete.purge (tenantId : String) (memoryId : Uuid) : ArtifactDelete where
  tenantId := tenantId
  memoryIds := [memoryId]
  eligibility := fun memory => memory.deletedAt.isSome

/-- `memory_purge_entity_artifacts`. -/
def memoryPurgeEntityArtifacts (tenantId : String) (memoryId : Uuid) (store : Store) :
    Store × ArtifactCounts :=
  (ArtifactDelete.purge tenantId memoryId).deleteEntityArtifacts store

/-- A drop followed by a purge. -/
def dropAndPurge (tenantId : String) (memoryId : Uuid) (now : Timestamp) (store : Store) : Store :=
  (memoryPurgeEntityArtifacts tenantId memoryId (memoryDrop tenantId memoryId now store).1).1

end Caura.EntityGraph
