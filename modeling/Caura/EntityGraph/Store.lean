import Caura.Memory.Row
import Caura.Quotient.Graph
import Caura.Value.Json
import Mathlib.Algebra.Order.Ring.Rat

/-!
# Entities, relations and their merge

The rows that refer to an entity: links of memories, relations with their evidence, and
the subjects of memories.  `_entity_merge_dupe_into_canonical` moves all of them from a
duplicate to the canonical entity by a sequence of statements and then deletes the
duplicate.  A statement that breaks a unique constraint is refused, which ends the merge.

The relations are moved twice by the same four statements, once at the end they start
from and once at the end they lead to; `Side` says which.
-/

namespace Caura.EntityGraph

open Caura.Memory (Row Timestamp)
open Caura.Relation (Table)
open Caura.Value Caura.Quotient

/-! ## Rows -/

/-- The `attributes` of an entity: the `_aliases`, and its other keys. -/
structure Attributes where
  aliases : List String := []
  entries : List (String × Json) := []

/-- A row of `entities`. -/
structure Entity where
  id : Uuid
  tenantId : String
  canonicalName : String
  attributes : Attributes := {}
  createdAt : Timestamp

/-- The primary key of `memory_entity_links`. -/
@[ext]
structure LinkKey where
  memoryId : Uuid
  entityId : Uuid
  deriving DecidableEq, Repr

/-- A row of `memory_entity_links`. -/
structure Link extends LinkKey where
  role : String
  source : String
  deriving DecidableEq, Repr

/-- `uq_relations_natural_key`. -/
structure NaturalKey where
  tenantId : String
  fromEntityId : Uuid
  relationType : String
  toEntityId : Uuid
  deriving DecidableEq, Repr

/-- A row of `relations`.  A missing weight is the least one, as `GREATEST` has it. -/
structure Relation extends NaturalKey where
  id : Uuid
  fleetId : Option String := none
  weight : WithBot ℚ := (1 : ℚ)
  evidenceMemoryId : Option Uuid := none
  deriving DecidableEq

/-- The tables, with their unique constraints.  A row of `relation_evidence` is the id of
a relation with the id of a memory. -/
structure Store where
  entities : Table Entity Entity.id
  memories : Table Row Row.id
  links : Table Link Link.toLinkKey
  relations : Table Relation Relation.id
  naturalKeys : (relations.rows.map Relation.toNaturalKey).Nodup
  evidence : Finset (Uuid × Uuid)

/-- The memory exists and is the tenant's. -/
def Store.isTenantMemory (store : Store) (tenantId : String) (memoryId : Uuid) : Bool :=
  store.memories.rows.any fun memory => memory.id == memoryId && memory.tenantId == tenantId

/-! ## Ends of a relation -/

/-- The end of the relations that is moved. -/
inductive Side
  | outgoing
  | incoming
  deriving DecidableEq, Repr

namespace Side

/-- The end that is moved. -/
def near : Side → NaturalKey → Uuid
  | outgoing, key => key.fromEntityId
  | incoming, key => key.toEntityId

/-- The other end. -/
def far : Side → NaturalKey → Uuid
  | outgoing, key => key.toEntityId
  | incoming, key => key.fromEntityId

/-- Move the end. -/
def repoint : Side → Uuid → NaturalKey → NaturalKey
  | outgoing, entityId, key =>
    { key with fromEntityId := entityId }
  | incoming, entityId, key =>
    { key with toEntityId := entityId }

end Side

/-- Move the end of a relation. -/
def Relation.repoint (side : Side) (entityId : Uuid) (relation : Relation) : Relation :=
  { relation with toNaturalKey := side.repoint entityId relation.toNaturalKey }

@[simp]
theorem Relation.toNaturalKey_repoint (side : Side) (entityId : Uuid) (relation : Relation) :
    (relation.repoint side entityId).toNaturalKey = side.repoint entityId relation.toNaturalKey :=
  rfl

@[simp]
theorem Relation.id_repoint (side : Side) (entityId : Uuid) (relation : Relation) :
    (relation.repoint side entityId).id = relation.id :=
  rfl

/-! ## Statements -/

/-- The parameters of the statements. -/
structure Merge where
  tenantId : String
  canonicalId : Uuid
  dupeId : Uuid

namespace Merge

variable (merge : Merge) (side : Side)

/-- Delete the duplicate's links of the memories that are linked to the canonical. -/
def deleteSharedLinks (store : Store) : Store :=
  let shared (memoryId : Uuid) : Bool := store.links.rows.any fun link =>
    link.entityId == merge.canonicalId && link.memoryId == memoryId &&
      store.isTenantMemory merge.tenantId link.memoryId
  { store with
    links := store.links.delete fun link =>
      link.entityId == merge.dupeId && shared link.memoryId }

/-- Point the duplicate's links at the canonical. -/
def repointLinks (store : Store) : Option Store :=
  (store.links.rekey (fun link => link.entityId == merge.dupeId &&
      store.isTenantMemory merge.tenantId link.memoryId)
    fun link => { link with entityId := merge.canonicalId }).map fun links =>
      { store with links }

/-- The join of the first two statements about relations: one of the canonical's and the
one of the duplicate's that it would collide with. -/
def collides (ofCanonical ofDupe : Relation) : Bool :=
  side.near ofDupe.toNaturalKey == merge.dupeId && ofDupe.tenantId == merge.tenantId &&
    side.near ofCanonical.toNaturalKey == merge.canonicalId &&
    ofCanonical.tenantId == merge.tenantId &&
    ofCanonical.relationType == ofDupe.relationType &&
    side.far ofCanonical.toNaturalKey == side.far ofDupe.toNaturalKey

/-- The greater of the two weights. -/
def raised (store : Store) (relation : Relation) : Relation :=
  match store.relations.rows.find? (merge.collides side relation) with
  | none => relation
  | some ofDupe =>
    { relation with weight := max relation.weight ofDupe.weight }

theorem toNaturalKey_raised (store : Store) (relation : Relation) :
    (merge.raised side store relation).toNaturalKey = relation.toNaturalKey := by
  unfold raised
  split <;> rfl

theorem id_raised (store : Store) (relation : Relation) :
    (merge.raised side store relation).id = relation.id := by
  unfold raised
  split <;> rfl

/-- Give the canonical's relations the greater weight. -/
def raiseWeights (store : Store) : Store :=
  { store with
    relations := store.relations.modify (fun _ => true) (merge.raised side store)
      (merge.id_raised side store)
    naturalKeys := by
      rw [Table.map_modify _ _ _ _ (merge.toNaturalKey_raised side store)]
      exact store.naturalKeys }

/-- Copy the evidence of the duplicate's relations to the canonical's. -/
def carryEvidence (store : Store) : Store :=
  { store with
    evidence := store.evidence ∪ store.evidence.biUnion fun row =>
      ((store.relations.rows.filter fun ofCanonical => store.relations.rows.any fun ofDupe =>
        ofDupe.id == row.1 && merge.collides side ofCanonical ofDupe).map
          fun ofCanonical => (ofCanonical.id, row.2)).toFinset }

/-- The duplicate's relation would become a loop or one that the canonical has. -/
def isRedundant (store : Store) (relation : Relation) : Bool :=
  side.near relation.toNaturalKey == merge.dupeId && relation.tenantId == merge.tenantId &&
    (side.far relation.toNaturalKey == merge.canonicalId || store.relations.rows.any fun other =>
        side.near other.toNaturalKey == merge.canonicalId && other.tenantId == merge.tenantId &&
          other.relationType == relation.relationType &&
          side.far other.toNaturalKey == side.far relation.toNaturalKey)

end Merge

/-- Delete relations, and their evidence with them. -/
def Store.deleteRelations (store : Store) (condition : Relation → Bool) : Store :=
  { store with
    relations := store.relations.delete condition
    naturalKeys := store.naturalKeys.sublist (List.filter_sublist.map _)
    evidence := store.evidence.filter fun row =>
      !(store.relations.rows.any fun relation => relation.id == row.1 && condition relation) }

namespace Merge

variable (merge : Merge) (side : Side)

/-- Delete the redundant relations. -/
def deleteRedundant (store : Store) : Store :=
  store.deleteRelations (merge.isRedundant side store)

/-- The relations with the duplicate's pointed at the canonical. -/
def repointedRelations (store : Store) : Table Relation Relation.id :=
  store.relations.modify
    (fun relation => side.near relation.toNaturalKey == merge.dupeId &&
      relation.tenantId == merge.tenantId)
    (Relation.repoint side merge.canonicalId) (Relation.id_repoint side merge.canonicalId)

/-- Point the duplicate's relations at the canonical. -/
def repointRelations (store : Store) : Option Store :=
  let relations := merge.repointedRelations side store
  if naturalKeys : (relations.rows.map Relation.toNaturalKey).Nodup then
    some { store with relations, naturalKeys }
  else
    none

/-- The four statements about one end of the relations. -/
def repointSide (store : Store) : Option Store :=
  merge.repointRelations side
    (merge.deleteRedundant side (merge.carryEvidence side (merge.raiseWeights side store)))

/-- Point the subjects at the canonical. -/
def repointSubjects (store : Store) : Store :=
  { store with
    memories := store.memories.modify
      (fun memory => memory.subjectEntityId == some merge.dupeId &&
        memory.tenantId == merge.tenantId)
      (fun memory => { memory with subjectEntityId := some merge.canonicalId }) fun _ => rfl }

end Merge

/-- `merged[key] = value`. -/
def setEntry (entries : List (String × Json)) (entry : String × Json) : List (String × Json) :=
  if entries.any fun other => other.1 == entry.1 then
    entries.map fun other => if other.1 == entry.1 then entry else other
  else
    entries ++ [entry]

/-- `_merge_entity_attributes`. -/
def mergeEntityAttributes (stored incoming : Attributes) : Attributes where
  aliases := incoming.aliases.foldl
    (fun aliases name => if aliases.contains name then aliases else aliases ++ [name])
    stored.aliases
  entries := incoming.entries.foldl setEntry stored.entries

/-- The attributes of both, with both names among the aliases. -/
def combinedAttributes (canonical dupe : Entity) : Attributes :=
  let merged := mergeEntityAttributes dupe.attributes canonical.attributes
  { merged with
    aliases := (merged.aliases ++
      [canonical.canonicalName, dupe.canonicalName]).dedup.insertionSort
        fun first second => first ≤ second }

namespace Merge

variable (merge : Merge)

/-- The canonical with the attributes of both. -/
def combined (store : Store) (canonical : Entity) : Entity :=
  match store.entities.lookup merge.dupeId with
  | none => canonical
  | some dupe =>
    { canonical with attributes := combinedAttributes canonical dupe }

theorem id_combined (store : Store) (canonical : Entity) :
    (merge.combined store canonical).id = canonical.id := by
  unfold combined
  split <;> rfl

/-- Give the canonical the attributes of both. -/
def mergeAttributes (store : Store) : Store :=
  { store with
    entities := store.entities.modify (fun entity => entity.id == merge.canonicalId)
      (merge.combined store) (merge.id_combined store) }

/-- Delete the duplicate, with what the foreign keys do to rows that refer to it. -/
def deleteDupe (store : Store) : Store :=
  let cascaded := store.deleteRelations fun relation =>
    relation.fromEntityId == merge.dupeId || relation.toEntityId == merge.dupeId
  { cascaded with
    entities := store.entities.delete fun entity => entity.id == merge.dupeId
    links := store.links.delete fun link => link.entityId == merge.dupeId
    memories := store.memories.modify (fun memory => memory.subjectEntityId == some merge.dupeId)
      (fun memory => { memory with subjectEntityId := none }) fun _ => rfl }

/-- `_entity_merge_dupe_into_canonical`. -/
def entityMergeDupeIntoCanonical (store : Store) : Option Store := do
  let store ← merge.repointLinks (merge.deleteSharedLinks store)
  let store ← merge.repointSide .outgoing store
  let store ← merge.repointSide .incoming store
  return merge.deleteDupe (merge.mergeAttributes (merge.repointSubjects store))

end Merge

/-! ## Groups -/

/-- Which of two entities `_entity_merge_cluster` prefers as its canonical: one with a
qualified name, the earlier one, the longer name, the smaller id. -/
def isPreferred (hasIdentifierOrQualifier : String → Bool) (first second : Entity) : Bool :=
  let firstQualified := hasIdentifierOrQualifier first.canonicalName
  if firstQualified ≠ hasIdentifierOrQualifier second.canonicalName then
    firstQualified
  else if first.createdAt ≠ second.createdAt then
    first.createdAt < second.createdAt
  else if first.canonicalName.length ≠ second.canonicalName.length then
    second.canonicalName.length < first.canonicalName.length
  else
    first.id.value < second.id.value

/-- The preferred one of all. -/
def chooseCanonical (hasIdentifierOrQualifier : String → Bool) : List Entity → Option Entity
  | [] => none
  | entity :: entities =>
    some (entities.foldl (fun best next =>
      if isPreferred hasIdentifierOrQualifier next best then next else best) entity)

/-- The tenant's entities of a cluster, by their ids. -/
def clusterEntities (tenantId : String) (clusterIds : List Uuid) (store : Store) : List Entity :=
  (store.entities.rows.filter fun entity =>
    clusterIds.contains entity.id && entity.tenantId == tenantId).insertionSort
      fun first second => first.id.value ≤ second.id.value

/-- The others of a cluster. -/
def dupesOf (entities : List Entity) (canonical : Entity) : List Uuid :=
  (entities.filter fun entity => entity.id != canonical.id).map Entity.id

/-! ## The graph of a tenant -/

/-- The weight of an edge and the memories that assert it. -/
abbrev Label := WithBot (WithBot ℚ × Finset Uuid)

namespace Store

variable (store : Store)

/-- The memories that assert a relation. -/
def evidenceOf (relationId : Uuid) : Finset Uuid :=
  (store.evidence.filter fun row => row.1 = relationId).image Prod.snd

/-- The relations by their natural keys. -/
def byNaturalKey : Table Relation Relation.toNaturalKey :=
  ⟨store.relations.rows, store.naturalKeys⟩

/-- The relation with a natural key. -/
def relationAt (key : NaturalKey) : Option Relation :=
  store.byNaturalKey.lookup key

/-- The label of a natural key. -/
def edgeAt (key : NaturalKey) : Label :=
  match store.relationAt key with
  | none => ⊥
  | some relation => WithBot.some (relation.weight, store.evidenceOf relation.id)

/-- The graph that the rows of a tenant make up. -/
def graph (tenantId : String) : Graph Uuid Uuid String Label where
  edges := fun fromEntityId relationType toEntityId =>
    store.edgeAt { tenantId, fromEntityId, relationType, toEntityId }
  linked := fun memoryId entityId =>
    store.isTenantMemory tenantId memoryId = true ∧
      (store.links.lookup { memoryId, entityId }).isSome = true
  subject := fun memoryId =>
    ((store.memories.lookup memoryId).filter fun memory => memory.tenantId = tenantId).bind
      Row.subjectEntityId

end Store

end Caura.EntityGraph
