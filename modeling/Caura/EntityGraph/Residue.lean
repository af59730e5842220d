import Caura.EntityGraph.Purge

/-!
# What a dropped memory leaves behind

A drop with the purge after it removes every link, assertion and pointer of the memory,
gives the relations it was the evidence of to other memories that assert them, deletes the
entities that only it was linked to, and changes nothing else.

Two things stay.  A held memory is not dropped, and so keeps what was mined from it.  And
the dropped row still names its subject: the purge counts that as a reference, so the
subject stays even if nothing else refers to it.
-/

namespace Caura.EntityGraph

open List ArtifactDelete Caura.Relation.Table

open Caura.Memory (Row Timestamp)
open Caura.Relation (Table)
open Caura.Value

/-! ## The rule -/

section Rule

variable (tenantId : String) (memory : Row) (store : Store)

/-- The memory is the evidence of a relation of the tenant. -/
def Evidenced (relation : Relation) : Prop :=
  relation.tenantId = tenantId ∧ relation.evidenceMemoryId = some memory.id

/-- Another live memory of the tenant that asserts a relation. -/
structure Asserts (relation : Relation) (other : Row) : Prop where
  stored : other ∈ store.memories
  isOther : other.id ≠ memory.id
  ofTenant : other.tenantId = tenantId
  live : other.live = true
  asserted : (relation.id, other.id) ∈ store.evidence

/-- The relation has other evidence, or can be given one. -/
def Survives (relation : Relation) : Prop :=
  Evidenced tenantId memory relation → ∃ other, Asserts tenantId memory store relation other

/-- A link or the subject of another memory, or a surviving relation, refers to the entity. -/
def ReferredElsewhere (entityId : Uuid) : Prop :=
  (∃ link ∈ store.links, link.memoryId ≠ memory.id ∧ link.entityId = entityId) ∨
    (∃ other ∈ store.memories, other.id ≠ memory.id ∧ other.tenantId = tenantId ∧
      other.subjectEntityId = some entityId) ∨
    ∃ relation ∈ store.relations, Survives tenantId memory store relation ∧
      (relation.fromEntityId = entityId ∨ relation.toEntityId = entityId)

/-- The memory is linked to the entity. -/
def IsLinked (entityId : Uuid) : Prop :=
  ∃ link ∈ store.links, link.memoryId = memory.id ∧ link.entityId = entityId

/-- Nothing of the memory is left in the graph of the tenant, and the rest is unchanged. -/
structure Purged (after : Store) : Prop where
  noLink : ∀ link ∈ after.links, link.memoryId ≠ memory.id
  noEvidence : ∀ row ∈ after.evidence, row.2 ≠ memory.id
  noPointer : ∀ relation ∈ after.relations, ¬ Evidenced tenantId memory relation
  survives : ∀ relation ∈ store.relations, Evidenced tenantId memory relation →
    ((∃ kept ∈ after.relations, kept.id = relation.id) ↔
      ∃ other, Asserts tenantId memory store relation other)
  repointed : ∀ relation ∈ store.relations, Evidenced tenantId memory relation →
    ∀ kept ∈ after.relations, kept.id = relation.id →
      ∃ other, Asserts tenantId memory store relation other ∧
        kept = relation.withEvidence (some other.id)
  gone : ∀ entity ∈ store.entities, entity.tenantId = tenantId →
    IsLinked memory store entity.id ∨ memory.subjectEntityId = some entity.id →
      ¬ ReferredElsewhere tenantId memory store entity.id → entity ∉ after.entities
  kept : ∀ entity ∈ store.entities, ReferredElsewhere tenantId memory store entity.id →
    entity ∈ after.entities
  otherLinks : ∀ link, link.memoryId ≠ memory.id → (link ∈ after.links ↔ link ∈ store.links)
  otherEvidence : ∀ row, row.2 ≠ memory.id →
    (∀ relation ∈ store.relations, relation.id = row.1 → Survives tenantId memory store relation) →
      (row ∈ after.evidence ↔ row ∈ store.evidence)
  otherRelations : ∀ relation ∈ store.relations, ¬ Evidenced tenantId memory relation →
    relation ∈ after.relations
  noNewRelation : ∀ relation ∈ after.relations, ∃ before ∈ store.relations,
    before.id = relation.id
  noNewEntity : ∀ entity ∈ after.entities, entity ∈ store.entities
  otherEntities : ∀ entity, ¬ IsLinked memory store entity.id →
    memory.subjectEntityId ≠ some entity.id → (entity ∈ after.entities ↔ entity ∈ store.entities)
  otherMemories : ∀ other : Row, other.id ≠ memory.id → other.tenantId = tenantId →
    (other ∈ after.memories ↔ other ∈ store.memories)

end Rule

/-! ## Deleting entities that nothing refers to -/

variable {relation : Relation}

section DeleteEntities

variable {store : Store} {condition : Entity → Bool}

/-- No link or relation refers to an entity that a condition selects. -/
structure Unreferred (store : Store) (condition : Entity → Bool) : Prop where
  links : ∀ link ∈ store.links, ∀ entity ∈ store.entities, condition entity = true →
    entity.id ≠ link.entityId
  relations : ∀ relation ∈ store.relations, ∀ entity ∈ store.entities, condition entity = true →
    entity.id ≠ relation.fromEntityId ∧ entity.id ≠ relation.toEntityId

theorem selectsEntity_iff {entityId : Uuid} : store.selectsEntity condition entityId = true ↔
    ∃ entity ∈ store.entities, entity.id = entityId ∧ condition entity = true := by
  simp [Store.selectsEntity, mem_def]

section

variable (unreferred : Unreferred store condition)

include unreferred

theorem Unreferred.mem_links_iff {link : Link} :
    link ∈ (store.deleteEntities condition).links ↔ link ∈ store.links := by
  refine mem_delete_iff.trans (and_iff_left_of_imp fun stored => ?_)
  rw [Bool.eq_false_iff, ne_eq, selectsEntity_iff]
  rintro ⟨entity, entityMem, same, selected⟩
  exact unreferred.links link stored entity entityMem selected same

theorem Unreferred.selectsEntity_ends (stored : relation ∈ store.relations) :
    (store.selectsEntity condition relation.fromEntityId ||
      store.selectsEntity condition relation.toEntityId) = false := by
  rw [Bool.eq_false_iff, ne_eq, Bool.or_eq_true, selectsEntity_iff, selectsEntity_iff]
  rintro (⟨entity, entityMem, same, selected⟩ | ⟨entity, entityMem, same, selected⟩)
  · exact (unreferred.relations relation stored entity entityMem selected).1 same
  · exact (unreferred.relations relation stored entity entityMem selected).2 same

theorem Unreferred.mem_relations_iff :
    relation ∈ (store.deleteEntities condition).relations ↔ relation ∈ store.relations :=
  mem_delete_iff.trans (and_iff_left_of_imp unreferred.selectsEntity_ends)

theorem Unreferred.mem_evidence_iff {row : Uuid × Uuid} :
    row ∈ (store.deleteEntities condition).evidence ↔ row ∈ store.evidence := by
  refine Finset.mem_filter.trans (and_iff_left ?_)
  rw [Bool.not_eq_true', any_eq_false]
  intro relation stored
  dsimp only
  rw [unreferred.selectsEntity_ends stored, Bool.and_false]
  exact Bool.false_ne_true

end

/-- The memories of a tenant stay as they are if none of their subjects is deleted. -/
theorem mem_memories_deleteEntities_iff {memory : Row}
    (stays : ∀ stored ∈ store.memories, stored.tenantId = memory.tenantId →
      ∀ entity ∈ store.entities, stored.subjectEntityId = some entity.id →
        condition entity = false) :
    memory ∈ (store.deleteEntities condition).memories ↔ memory ∈ store.memories := by
  have unselected : ∀ stored ∈ store.memories, stored.tenantId = memory.tenantId →
      stored.subjectEntityId.any (store.selectsEntity condition) = false := by
    intro stored storedMem ofTenant
    cases subject : stored.subjectEntityId with
    | none => rfl
    | some entityId =>
      rw [Option.any_some, Bool.eq_false_iff, ne_eq, selectsEntity_iff]
      rintro ⟨entity, entityMem, rfl, selected⟩
      rw [stays stored storedMem ofTenant entity entityMem subject] at selected
      cases selected
  exact store.memories.mem_modify_iff_of_unselected Row.tenantId
    (fun memory => { memory with subjectEntityId := none }) (fun _ => rfl) (fun _ => rfl)
    unselected

end DeleteEntities

/-! ## The statements of the purge -/

section Cleared

variable (tenantId : String) (memory : Row) (store : Store)

/-- The store after the links and assertions of the memory are deleted. -/
def unasserted : Store :=
  (purge tenantId memory.id).deleteAssertions [memory.id] store

/-- The store after the relations are cleared, too. -/
def cleared : Store :=
  (purge tenantId memory.id).clearRelations [memory.id]
    (unasserted tenantId memory store)

/-- The memory that a relation is given as its new evidence. -/
def newEvidence (relation : Relation) : Option Uuid :=
  (purge tenantId memory.id).replacement (unasserted tenantId memory store) relation

end Cleared

variable {tenantId : String} {memory : Row}

section Statements

variable {store : Store} {link : Link}

theorem takesLink_purge_iff : (purge tenantId memory.id).takesLink [memory.id] link = true ↔
      link.memoryId = memory.id := by
  simp [takesLink, purge]

theorem mem_links_unasserted_iff : link ∈ (unasserted tenantId memory store).links ↔
      link ∈ store.links ∧ link.memoryId ≠ memory.id := by
  refine mem_delete_iff.trans (and_congr_right fun _ => ?_)
  rw [Bool.eq_false_iff, ne_eq, takesLink_purge_iff]

variable {row : Uuid × Uuid}

theorem mem_evidence_unasserted_iff (tenantId : String) :
    row ∈ (unasserted tenantId memory store).evidence ↔
      row ∈ store.evidence ∧ row.2 ≠ memory.id := by
  simp [unasserted, deleteAssertions]

theorem isAffected_purge_iff : (purge tenantId memory.id).isAffected [memory.id] relation = true ↔
      Evidenced tenantId memory relation := by
  simp [isAffected, purge, Evidenced, Option.any_eq_true]

theorem mem_asserters_purge_iff {other : Row} : other ∈ (purge tenantId memory.id).asserters
        (unasserted tenantId memory store) relation ↔
      Asserts tenantId memory store relation other := by
  simp only [asserters, mem_filter, Bool.and_eq_true, decide_eq_true_iff,
    mem_evidence_unasserted_iff, beq_iff_eq]
  constructor
  · rintro ⟨stored, ⟨⟨asserted, isOther⟩, ofTenant⟩, live⟩
    exact ⟨stored, isOther, ofTenant, live, asserted⟩
  · rintro ⟨stored, isOther, ofTenant, live, asserted⟩
    exact ⟨stored, ⟨⟨asserted, isOther⟩, ofTenant⟩, live⟩

variable {memoryId relationId entityId : Uuid}

theorem newEvidence_eq_some (found : newEvidence tenantId memory store relation = some memoryId) :
    ∃ other, Asserts tenantId memory store relation other ∧ other.id = memoryId := by
  obtain ⟨other, isHead, isOther⟩ := Option.map_eq_some_iff.mp found
  refine ⟨other, mem_asserters_purge_iff.mp ?_, isOther⟩
  exact (mem_insertionSort _).mp (mem_of_mem_head? isHead)

theorem newEvidence_eq_none_iff : newEvidence tenantId memory store relation = none ↔
      ¬ ∃ other, Asserts tenantId memory store relation other := by
  rw [newEvidence, replacement, Option.map_eq_none_iff, List.head?_eq_none_iff,
    ← length_eq_zero_iff, length_insertionSort, length_eq_zero_iff,
    eq_nil_iff_forall_not_mem, not_exists]
  exact forall_congr' fun other => not_congr mem_asserters_purge_iff

/-- The relations that are deleted. -/
theorem mem_relationIdsToDelete_iff :
    relationId ∈ (purge tenantId memory.id).relationIdsToDelete [memory.id]
        (unasserted tenantId memory store) ↔
      ∃ relation ∈ store.relations, relation.id = relationId ∧
        ¬ Survives tenantId memory store relation := by
  simp only [relationIdsToDelete, mem_map, mem_filter, Bool.and_eq_true,
    isAffected_purge_iff, Option.isNone_iff_eq_none]
  constructor
  · rintro ⟨relation, ⟨stored, evidenced, none⟩, rfl⟩
    refine ⟨relation, stored, rfl, fun survives => ?_⟩
    exact newEvidence_eq_none_iff.mp none (survives evidenced)
  · rintro ⟨relation, stored, rfl, dies⟩
    obtain ⟨evidenced, unasserted⟩ := Classical.not_imp.mp dies
    exact ⟨relation, ⟨stored, evidenced, newEvidence_eq_none_iff.mpr unasserted⟩, rfl⟩

/-- What becomes of a relation that survives. -/
def kept (tenantId : String) (memory : Row) (store : Store) (relation : Relation) : Relation :=
  if (purge tenantId memory.id).isAffected [memory.id] relation &&
      (newEvidence tenantId memory store relation).isSome then
    relation.withEvidence (newEvidence tenantId memory store relation)
  else
    relation

theorem id_kept : (kept tenantId memory store relation).id = relation.id := by
  unfold kept
  split <;> rfl

theorem kept_of_not_evidenced (other : ¬ Evidenced tenantId memory relation) :
    kept tenantId memory store relation = relation := by
  unfold kept
  rw [if_neg]
  rw [Bool.and_eq_true, isAffected_purge_iff]
  exact fun both => other both.1

theorem kept_of_evidenced (evidenced : Evidenced tenantId memory relation)
    (survives : Survives tenantId memory store relation) :
    ∃ other, Asserts tenantId memory store relation other ∧
      kept tenantId memory store relation = relation.withEvidence (some other.id) := by
  cases found : newEvidence tenantId memory store relation with
  | none => exact absurd (survives evidenced) (newEvidence_eq_none_iff.mp found)
  | some memoryId =>
    obtain ⟨other, asserts, rfl⟩ := newEvidence_eq_some found
    refine ⟨other, asserts, ?_⟩
    unfold kept
    rw [found, if_pos]
    rwa [Option.isSome_some, Bool.and_true, isAffected_purge_iff]

/-- What is kept does not have the memory as its evidence. -/
theorem not_evidenced_kept (survives : Survives tenantId memory store relation) :
    ¬ Evidenced tenantId memory (kept tenantId memory store relation) := by
  by_cases evidenced : Evidenced tenantId memory relation
  · obtain ⟨other, asserts, keptEq⟩ := kept_of_evidenced evidenced survives
    rw [keptEq]
    exact fun still => asserts.isOther (Option.some.inj still.2)
  · rwa [kept_of_not_evidenced evidenced]

theorem mem_relations_repointEvidence_iff :
    relation ∈ ((purge tenantId memory.id).repointEvidence [memory.id]
        (unasserted tenantId memory store)).relations ↔
      ∃ before ∈ store.relations, kept tenantId memory store before = relation :=
  mem_map

/-- A relation is not deleted exactly when it survives. -/
theorem not_mem_relationIdsToDelete_iff {before : Relation} (stored : before ∈ store.relations) :
    before.id ∉ (purge tenantId memory.id).relationIdsToDelete [memory.id]
        (unasserted tenantId memory store) ↔ Survives tenantId memory store before := by
  rw [mem_relationIdsToDelete_iff, not_exists]
  constructor
  · intro none
    exact not_not.mp fun dies => none before ⟨stored, rfl, dies⟩
  · rintro survives other ⟨otherStored, same, dies⟩
    exact dies (eq_of_key_eq otherStored stored same ▸ survives)

/-- The relations that are not deleted are kept. -/
theorem mem_relations_cleared_iff : relation ∈ (cleared tenantId memory store).relations ↔
      ∃ before ∈ store.relations, Survives tenantId memory store before ∧
        kept tenantId memory store before = relation := by
  refine mem_delete_iff.trans ?_
  rw [Bool.eq_false_iff, ne_eq, contains_iff_mem, mem_relations_repointEvidence_iff]
  constructor
  · rintro ⟨⟨before, stored, rfl⟩, stays⟩
    rw [id_kept] at stays
    exact ⟨before, stored, (not_mem_relationIdsToDelete_iff stored).mp stays, rfl⟩
  · rintro ⟨before, stored, survives, rfl⟩
    refine ⟨⟨before, stored, rfl⟩, ?_⟩
    rw [id_kept]
    exact (not_mem_relationIdsToDelete_iff stored).mpr survives

/-- The assertions of other memories stay with the relations that survive. -/
theorem mem_evidence_cleared_iff : row ∈ (cleared tenantId memory store).evidence ↔
      (row ∈ store.evidence ∧ row.2 ≠ memory.id) ∧ ∀ relation ∈ store.relations,
        relation.id = row.1 → Survives tenantId memory store relation := by
  refine Finset.mem_filter.trans (and_congr (mem_evidence_unasserted_iff tenantId) ?_)
  rw [Bool.not_eq_true', any_eq_false]
  simp only [Bool.and_eq_true, beq_iff_eq, contains_iff_mem, not_and]
  constructor
  · intro stays relation stored same
    have stays := stays _ (mem_relations_repointEvidence_iff.mpr ⟨relation, stored, rfl⟩)
    rw [id_kept] at stays
    exact (not_mem_relationIdsToDelete_iff stored).mp (stays same)
  · intro survives relation relationMem same
    obtain ⟨before, stored, rfl⟩ := mem_relations_repointEvidence_iff.mp relationMem
    rw [id_kept] at same ⊢
    exact (not_mem_relationIdsToDelete_iff stored).mpr (survives before stored same)

/-! ## Orphans -/

/-- The entities that the purge deletes. -/
def orphan (tenantId : String) (memory : Row) (store : Store) : Entity → Bool :=
  (purge tenantId memory.id).isOrphan [memory.id]
    ((purge tenantId memory.id).linkCandidates [memory.id] store ++
      (purge tenantId memory.id).subjectCandidates [memory.id] store)
    (cleared tenantId memory store)

/-- A surviving relation ends at the entity. -/
theorem exists_relations_cleared_iff {ends : NaturalKey → Uuid} :
    (∃ relation ∈ (cleared tenantId memory store).relations,
        ends relation.toNaturalKey = entityId) ↔
      ∃ relation ∈ store.relations, Survives tenantId memory store relation ∧
        ends relation.toNaturalKey = entityId := by
  have sameEnds : ∀ relation : Relation,
      (kept tenantId memory store relation).toNaturalKey = relation.toNaturalKey := by
    intro relation
    unfold kept
    split <;> rfl
  constructor
  · rintro ⟨relation, relationMem, isEnd⟩
    obtain ⟨before, stored, survives, rfl⟩ := mem_relations_cleared_iff.mp relationMem
    exact ⟨before, stored, survives, sameEnds before ▸ isEnd⟩
  · rintro ⟨before, stored, survives, isEnd⟩
    refine ⟨_, mem_relations_cleared_iff.mpr ⟨before, stored, survives, rfl⟩, ?_⟩
    rwa [sameEnds]

theorem mem_linkCandidates_iff :
    entityId ∈ (purge tenantId memory.id).linkCandidates [memory.id] store ↔
      IsLinked memory store entityId := by
  simp [linkCandidates, takesLink_purge_iff, IsLinked, mem_def, and_assoc]

variable {entity : Entity}

theorem isOrphan_iff {candidates : List Uuid} :
    (purge tenantId memory.id).isOrphan [memory.id] candidates store entity = true ↔
      entity.tenantId = tenantId ∧ entity.id ∈ candidates ∧
        (¬ ∃ link ∈ store.links, link.entityId = entity.id) ∧
        (¬ ∃ relation ∈ store.relations, relation.fromEntityId = entity.id) ∧
        (¬ ∃ relation ∈ store.relations, relation.toEntityId = entity.id) ∧
        ¬ ∃ other ∈ store.memories, other.subjectEntityId = some entity.id ∧
          other.tenantId = tenantId := by
  simp [isOrphan, refersToSubject, purge, mem_def, and_assoc]

/-- The purge deletes the entities the memory is linked to that nothing else refers to and
that are not its subject. -/
theorem orphan_iff (memoryMem : memory ∈ store.memories) (ofTenant : memory.tenantId = tenantId) :
    orphan tenantId memory store entity = true ↔
      entity.tenantId = tenantId ∧ IsLinked memory store entity.id ∧
        ¬ ReferredElsewhere tenantId memory store entity.id ∧
        memory.subjectEntityId ≠ some entity.id := by
  have noSubjects : (purge tenantId memory.id).subjectCandidates [memory.id] store = [] := rfl
  have linked : (∃ link ∈ (cleared tenantId memory store).links, link.entityId = entity.id) ↔
      ∃ link ∈ store.links, link.memoryId ≠ memory.id ∧ link.entityId = entity.id := by
    refine exists_congr fun link => ?_
    rw [← and_assoc]
    exact and_congr_left fun _ => mem_links_unasserted_iff
  have subjects : (∃ other ∈ store.memories,
      other.subjectEntityId = some entity.id ∧ other.tenantId = tenantId) ↔
        memory.subjectEntityId = some entity.id ∨ ∃ other ∈ store.memories,
          other.id ≠ memory.id ∧ other.tenantId = tenantId ∧
            other.subjectEntityId = some entity.id := by
    constructor
    · rintro ⟨other, stored, subject, tenant⟩
      by_cases same : other.id = memory.id
      · exact .inl (eq_of_key_eq stored memoryMem same ▸ subject)
      · exact .inr ⟨other, stored, same, tenant, subject⟩
    · rintro (subject | ⟨other, stored, _, tenant, subject⟩)
      · exact ⟨memory, memoryMem, subject, ofTenant⟩
      · exact ⟨other, stored, subject, tenant⟩
  rw [orphan, noSubjects, append_nil, isOrphan_iff, mem_linkCandidates_iff, linked,
    exists_relations_cleared_iff,
    exists_relations_cleared_iff]
  have memories : (cleared tenantId memory store).memories = store.memories := rfl
  rw [memories, subjects, ReferredElsewhere]
  simp only [and_or_left, exists_or, not_or]
  tauto

theorem unreferred_orphan : Unreferred (cleared tenantId memory store)
    (orphan tenantId memory store) where
  links := by
    intro link linkMem entity _ isOrphan same
    exact (isOrphan_iff.mp isOrphan).2.2.1 ⟨link, linkMem, same.symm⟩
  relations := by
    intro relation relationMem entity _ isOrphan
    obtain ⟨_, _, _, noFrom, noTo, _⟩ := isOrphan_iff.mp isOrphan
    exact ⟨fun same => noFrom ⟨relation, relationMem, same.symm⟩,
      fun same => noTo ⟨relation, relationMem, same.symm⟩⟩

/-- The store after a purge that runs. -/
theorem purge_eq (memoryMem : memory ∈ store.memories) (ofTenant : memory.tenantId = tenantId)
    (deleted : memory.deletedAt.isSome = true) :
    (memoryPurgeEntityArtifacts tenantId memory.id store).1 =
      (cleared tenantId memory store).deleteEntities (orphan tenantId memory store) := by
  have eligible : (purge tenantId memory.id).eligibleIds store = [memory.id] := by
    apply filter_eq_self.mpr
    intro memoryId isMemory
    rw [mem_singleton.mp isMemory, any_eq_true]
    exact ⟨memory, memoryMem, by simp [purge, ofTenant, deleted]⟩
  rw [memoryPurgeEntityArtifacts, deleteEntityArtifacts, eligible]
  rfl

section Purged

variable (tenantId memory store)

/-- The store that a purge leaves when it runs. -/
def purgedStore : Store :=
  (cleared tenantId memory store).deleteEntities (orphan tenantId memory store)

variable {tenantId memory store}

theorem mem_links_purgedStore_iff : link ∈ (purgedStore tenantId memory store).links ↔
      link ∈ store.links ∧ link.memoryId ≠ memory.id :=
  unreferred_orphan.mem_links_iff.trans mem_links_unasserted_iff

theorem mem_relations_purgedStore_iff :
    relation ∈ (purgedStore tenantId memory store).relations ↔ ∃ before ∈ store.relations,
      Survives tenantId memory store before ∧ kept tenantId memory store before = relation :=
  unreferred_orphan.mem_relations_iff.trans mem_relations_cleared_iff

theorem mem_evidence_purgedStore_iff : row ∈ (purgedStore tenantId memory store).evidence ↔
      (row ∈ store.evidence ∧ row.2 ≠ memory.id) ∧ ∀ relation ∈ store.relations,
        relation.id = row.1 → Survives tenantId memory store relation :=
  unreferred_orphan.mem_evidence_iff.trans mem_evidence_cleared_iff

theorem mem_entities_purgedStore_iff (memoryMem : memory ∈ store.memories)
    (ofTenant : memory.tenantId = tenantId) :
    entity ∈ (purgedStore tenantId memory store).entities ↔ entity ∈ store.entities ∧
      ¬ (entity.tenantId = tenantId ∧ IsLinked memory store entity.id ∧
        ¬ ReferredElsewhere tenantId memory store entity.id ∧
        memory.subjectEntityId ≠ some entity.id) := by
  rw [← orphan_iff memoryMem ofTenant, Bool.not_eq_true]
  exact mem_delete_iff

/-- The memories of the tenant keep their subjects, which are no orphans. -/
theorem mem_memories_purgedStore_iff {other : Row} (ofTenant : other.tenantId = tenantId) :
    other ∈ (purgedStore tenantId memory store).memories ↔ other ∈ store.memories := by
  refine mem_memories_deleteEntities_iff fun stored storedMem sameTenant entity _ subject => ?_
  rw [Bool.eq_false_iff]
  intro isOrphan
  exact (isOrphan_iff.mp isOrphan).2.2.2.2.2 ⟨stored, storedMem, subject, sameTenant.trans ofTenant⟩

/-- A purge that runs leaves no residue if the subject of the memory is referred to
elsewhere. -/
theorem purged_purgedStore (memoryMem : memory ∈ store.memories)
    (ofTenant : memory.tenantId = tenantId)
    (elsewhere : ∀ entity ∈ store.entities, entity.tenantId = tenantId →
      memory.subjectEntityId = some entity.id → ReferredElsewhere tenantId memory store entity.id) :
    Purged tenantId memory store (purgedStore tenantId memory store) where
  noLink := fun link linkMem => (mem_links_purgedStore_iff.mp linkMem).2
  noEvidence := fun row rowMem => (mem_evidence_purgedStore_iff.mp rowMem).1.2
  noPointer := by
    intro relation relationMem
    obtain ⟨before, stored, survives, rfl⟩ := mem_relations_purgedStore_iff.mp relationMem
    exact not_evidenced_kept survives
  survives := by
    intro relation stored evidenced
    constructor
    · rintro ⟨after, afterMem, same⟩
      obtain ⟨before, beforeMem, survives, rfl⟩ := mem_relations_purgedStore_iff.mp afterMem
      rw [id_kept] at same
      cases eq_of_key_eq beforeMem stored same
      exact survives evidenced
    · intro asserted
      exact ⟨_, mem_relations_purgedStore_iff.mpr ⟨relation, stored, fun _ => asserted, rfl⟩,
        id_kept⟩
  repointed := by
    intro relation stored evidenced after afterMem same
    obtain ⟨before, beforeMem, survives, rfl⟩ := mem_relations_purgedStore_iff.mp afterMem
    rw [id_kept] at same
    cases eq_of_key_eq beforeMem stored same
    exact kept_of_evidenced evidenced survives
  gone := by
    intro entity stored tenant refers notElsewhere entityMem
    have notSubject : memory.subjectEntityId ≠ some entity.id :=
      fun subject => notElsewhere (elsewhere entity stored tenant subject)
    exact ((mem_entities_purgedStore_iff memoryMem ofTenant).mp entityMem).2
      ⟨tenant, refers.resolve_right notSubject, notElsewhere, notSubject⟩
  kept := by
    intro entity stored refers
    exact (mem_entities_purgedStore_iff memoryMem ofTenant).mpr
      ⟨stored, fun orphaned => orphaned.2.2.1 refers⟩
  otherLinks := fun _ isOther => mem_links_purgedStore_iff.trans (and_iff_left isOther)
  otherEvidence := fun _ isOther survive =>
    mem_evidence_purgedStore_iff.trans ((and_iff_left survive).trans (and_iff_left isOther))
  otherRelations := fun relation stored other =>
    mem_relations_purgedStore_iff.mpr ⟨relation, stored,
      fun evidenced => absurd evidenced other, kept_of_not_evidenced other⟩
  noNewRelation := by
    intro relation relationMem
    obtain ⟨before, stored, _, rfl⟩ := mem_relations_purgedStore_iff.mp relationMem
    exact ⟨before, stored, id_kept.symm⟩
  noNewEntity := fun _ entityMem =>
    ((mem_entities_purgedStore_iff memoryMem ofTenant).mp entityMem).1
  otherEntities := by
    intro entity notLinked _
    exact (mem_entities_purgedStore_iff memoryMem ofTenant).trans
      (and_iff_left fun orphaned => notLinked orphaned.2.1)
  otherMemories := fun _ _ tenant => mem_memories_purgedStore_iff tenant

end Purged

end Statements

/-! ## The drop before the purge -/

section Drop

variable {row : Row} {store : Store} {memories : Table Row Row.id} {now : Timestamp}

/-- The table has another version of the memory, with its subject, and the other memories
as they were. -/
structure Replaced (memory row : Row) (store : Store) (memories : Table Row Row.id) : Prop where
  id : row.id = memory.id
  subject : row.subjectEntityId = memory.subjectEntityId
  others : ∀ other : Row, other.id ≠ memory.id → (other ∈ memories ↔ other ∈ store.memories)

namespace Replaced

variable (replaced : Replaced memory row store memories)

include replaced

theorem evidenced_eq : Evidenced tenantId row = Evidenced tenantId memory := by
  unfold Evidenced
  rw [replaced.id]

theorem asserts_eq :
    Asserts tenantId row { store with memories } = Asserts tenantId memory store := by
  ext relation other
  constructor
  · rintro ⟨stored, isOther, ofTenant, live, asserted⟩
    rw [replaced.id] at isOther
    exact ⟨(replaced.others other isOther).mp stored, isOther, ofTenant, live, asserted⟩
  · rintro ⟨stored, isOther, ofTenant, live, asserted⟩
    exact ⟨(replaced.others other isOther).mpr stored, replaced.id ▸ isOther, ofTenant, live,
      asserted⟩

theorem survives_eq :
    Survives tenantId row { store with memories } = Survives tenantId memory store := by
  unfold Survives
  rw [replaced.evidenced_eq, replaced.asserts_eq]

theorem isLinked_eq : IsLinked row { store with memories } = IsLinked memory store := by
  unfold IsLinked
  rw [replaced.id]

theorem referredElsewhere_eq : ReferredElsewhere tenantId row { store with memories } =
    ReferredElsewhere tenantId memory store := by
  have others : ∀ other : Row, other ∈ memories ∧ other.id ≠ memory.id ↔
      other ∈ store.memories ∧ other.id ≠ memory.id :=
    fun other => and_congr_left fun isOther => replaced.others other isOther
  unfold ReferredElsewhere
  simp only [replaced.id, replaced.survives_eq, ← and_assoc, others]

/-- What is purged with the new version is purged with the old one. -/
theorem purged {after : Store} (purged : Purged tenantId row { store with memories } after) :
    Purged tenantId memory store after := by
  obtain ⟨noLink, noEvidence, noPointer, survives, repointed, gone, kept, otherLinks,
    otherEvidence, otherRelations, noNewRelation, noNewEntity, otherEntities, otherMemories⟩ :=
      purged
  simp only [replaced.id, replaced.subject, replaced.evidenced_eq, replaced.asserts_eq,
    replaced.survives_eq, replaced.isLinked_eq, replaced.referredElsewhere_eq] at *
  exact ⟨noLink, noEvidence, noPointer, survives, repointed, gone, kept, otherLinks,
    otherEvidence, otherRelations, noNewRelation, noNewEntity, otherEntities,
    fun other isOther tenant =>
      (otherMemories other isOther tenant).trans (replaced.others other isOther)⟩

end Replaced

/-- The drop replaces the memory by a soft-deleted version, unless it is held. -/
theorem exists_replaced_memoryDrop (now : Timestamp) (memoryMem : memory ∈ store.memories)
    (ofTenant : memory.tenantId = tenantId)
    (reached : ¬ (memory.status = .quarantined ∧ memory.deletedAt = none)) :
    ∃ row ∈ (memoryDrop tenantId memory.id now store).1.memories,
      Replaced memory row store (memoryDrop tenantId memory.id now store).1.memories ∧
        row.tenantId = tenantId ∧ row.deletedAt.isSome = true := by
  have others : ∀ other : Row, other.id ≠ memory.id →
      (other ∈ (memoryDrop tenantId memory.id now store).1.memories ↔ other ∈ store.memories) := by
    intro other isOther
    refine store.memories.mem_modify_iff_of_unselected Row.id (dropRow now)
      (fun _ => rfl) (fun _ => rfl) fun before _ same => ?_
    simp [same, isOther]
  have stored : (if (memory.tenantId == tenantId && memory.id == memory.id &&
      memory.status != .quarantined) = true then dropRow now memory else memory) ∈
        (memoryDrop tenantId memory.id now store).1.memories :=
    mem_map.mpr ⟨memory, memoryMem, rfl⟩
  by_cases held : memory.status = .quarantined
  · have deleted : memory.deletedAt ≠ none := fun none => reached ⟨held, none⟩
    rw [if_neg (by simp [held])] at stored
    exact ⟨memory, stored, ⟨rfl, rfl, others⟩, ofTenant, Option.isSome_iff_ne_none.mpr deleted⟩
  · rw [if_pos (by simp [ofTenant, held])] at stored
    exact ⟨dropRow now memory, stored, ⟨rfl, rfl, others⟩, ofTenant, rfl⟩

/-- A held memory that is not deleted stays as it is, with what was mined from it. -/
theorem dropAndPurge_eq_self (memoryMem : memory ∈ store.memories)
    (held : memory.status = .quarantined) (present : memory.deletedAt = none) :
    dropAndPurge tenantId memory.id now store = store := by
  have onlyRow : ∀ row ∈ store.memories, row.id = memory.id → row = memory :=
    fun row rowMem same => eq_of_key_eq rowMem memoryMem same
  have undropped : (memoryDrop tenantId memory.id now store).1 = store := by
    have unselected : (store.memories.rows.any fun row => row.tenantId == tenantId &&
        row.id == memory.id && row.status != .quarantined) = false := by
      rw [any_eq_false]
      intro row rowMem
      by_cases same : row.id = memory.id
      · simp [onlyRow row rowMem same, held]
      · simp [same]
    have keepsId : ∀ row, (dropRow now row).id = row.id := fun _ => rfl
    have memories := modify_eq_self keepsId unselected
    exact congrArg (fun memories => { store with memories }) memories
  have ineligible : (purge tenantId memory.id).eligibleIds store = [] := by
    apply filter_eq_nil_iff.mpr
    intro memoryId isMemory
    rw [mem_singleton.mp isMemory, any_eq_true]
    rintro ⟨row, rowMem, selected⟩
    simp only [purge, Bool.and_eq_true, beq_iff_eq] at selected
    rw [onlyRow row rowMem selected.1.1, present] at selected
    cases selected.2
  rw [dropAndPurge, undropped, memoryPurgeEntityArtifacts, deleteEntityArtifacts, ineligible]
  rfl

/-- Where a drop and a purge leave nothing behind: a memory that waits in quarantine has no
part in the graph, and the subject of the memory is referred to elsewhere. -/
structure Droppable (tenantId : String) (memory : Row) (store : Store) : Prop where
  heldApart : memory.status = .quarantined → memory.deletedAt = none →
    (∀ link ∈ store.links, link.memoryId ≠ memory.id) ∧
      (∀ row ∈ store.evidence, row.2 ≠ memory.id) ∧
      ∀ relation ∈ store.relations, ¬ Evidenced tenantId memory relation
  subjectElsewhere : ∀ entity ∈ store.entities, entity.tenantId = tenantId →
    memory.subjectEntityId = some entity.id → ReferredElsewhere tenantId memory store entity.id

theorem purged_self_iff (held : memory.status = .quarantined) (present : memory.deletedAt = none) :
    Purged tenantId memory store store ↔ Droppable tenantId memory store := by
  constructor
  · intro purged
    refine ⟨fun _ _ => ⟨purged.noLink, purged.noEvidence, purged.noPointer⟩, ?_⟩
    intro entity stored tenant subject
    by_contra notElsewhere
    exact purged.gone entity stored tenant (.inr subject) notElsewhere stored
  · intro droppable
    obtain ⟨noLink, noEvidence, noPointer⟩ := droppable.heldApart held present
    exact {
      noLink := noLink
      noEvidence := noEvidence
      noPointer := noPointer
      survives := fun relation stored evidenced => absurd evidenced (noPointer relation stored)
      repointed := fun relation stored evidenced => absurd evidenced (noPointer relation stored)
      gone := by
        rintro entity stored tenant (⟨link, linkMem, ofMemory, _⟩ | subject) notElsewhere
        · exact absurd ofMemory (noLink link linkMem)
        · exact absurd (droppable.subjectElsewhere entity stored tenant subject) notElsewhere
      kept := fun _ stored _ => stored
      otherLinks := fun _ _ => .rfl
      otherEvidence := fun _ _ _ => .rfl
      otherRelations := fun _ stored _ => stored
      noNewRelation := fun relation stored => ⟨relation, stored, rfl⟩
      noNewEntity := fun _ stored => stored
      otherEntities := fun _ _ _ => .rfl
      otherMemories := fun _ _ _ => .rfl }

end Drop

/-- A drop with the purge after it leaves nothing of a memory in its tenant's graph and
harms nothing else exactly when the memory is droppable. -/
theorem drop_and_purge_iff {tenantId : String} {memory : Row} {store : Store} (now : Timestamp)
    (memoryMem : memory ∈ store.memories) (ofTenant : memory.tenantId = tenantId) :
    Purged tenantId memory store (dropAndPurge tenantId memory.id now store) ↔
      Droppable tenantId memory store := by
  by_cases unreached : memory.status = .quarantined ∧ memory.deletedAt = none
  · rw [dropAndPurge_eq_self memoryMem unreached.1 unreached.2]
    exact purged_self_iff unreached.1 unreached.2
  obtain ⟨row, rowMem, replaced, rowTenant, deleted⟩ :=
    exists_replaced_memoryDrop now memoryMem ofTenant unreached
  have after : dropAndPurge tenantId memory.id now store =
      purgedStore tenantId row (memoryDrop tenantId memory.id now store).1 := by
    have purge := purge_eq rowMem rowTenant deleted
    rwa [replaced.id] at purge
  rw [after]
  constructor
  · intro purged
    refine ⟨fun held present => absurd ⟨held, present⟩ unreached, ?_⟩
    intro entity stored tenant subject
    by_contra notElsewhere
    apply purged.gone entity stored tenant (.inr subject) notElsewhere
    refine (mem_entities_purgedStore_iff rowMem rowTenant).mpr ⟨stored, fun orphaned => ?_⟩
    exact orphaned.2.2.2 (replaced.subject.trans subject)
  · intro droppable
    refine replaced.purged (purged_purgedStore rowMem rowTenant ?_)
    intro entity stored tenant subject
    refine (congrFun replaced.referredElsewhere_eq _).mpr ?_
    exact droppable.subjectElsewhere entity stored tenant (replaced.subject.symm.trans subject)

/-! ## A subject and a link -/

/-- An entity with the name of a person, and a memory that is linked to it. -/
def personEntity : Entity where
  id := Uuid.ofNat 1
  tenantId := "t"
  canonicalName := "ada lovelace"
  createdAt := 0

/-- The memory, with or without the person as subject. -/
def personMemory (subject : Option Uuid) : Row where
  id := Uuid.ofNat 2
  tenantId := "t"
  agentId := "ann"
  createdAt := none
  subjectEntityId := subject

/-- A graph of the two. -/
def personStore (subject : Option Uuid) : Store where
  entities := ⟨[personEntity], nodup_singleton _⟩
  memories := ⟨[personMemory subject], nodup_singleton _⟩
  links := ⟨[{ memoryId := Uuid.ofNat 2, entityId := Uuid.ofNat 1, role := "subject"
               source := "extraction" }], nodup_singleton _⟩
  relations := Table.empty
  naturalKeys := nodup_nil
  evidence := ∅

/-- The name of the person stays, although nothing but the dropped memory refers to it. -/
theorem subject_outlives_drop :
    ¬ Purged "t" (personMemory (some (Uuid.ofNat 1))) (personStore (some (Uuid.ofNat 1)))
      (dropAndPurge "t" (Uuid.ofNat 2) 5 (personStore (some (Uuid.ofNat 1)))) := by
  intro purged
  refine purged.gone personEntity (mem_singleton_self _) rfl (.inr rfl) ?_ ?_
  · rintro (⟨link, linkMem, isOther, _⟩ | ⟨other, otherMem, isOther, _⟩ | ⟨_, relationMem, _⟩)
    · cases mem_singleton.mp linkMem
      exact isOther rfl
    · cases mem_singleton.mp otherMem
      exact isOther rfl
    · cases relationMem
  · exact mem_singleton_self _

/-- Without the subject the memory is droppable, and the entity goes with it. -/
theorem drop_and_purge_iff_person : personMemory none ∈ (personStore none).memories ∧
      Purged "t" (personMemory none) (personStore none)
        (dropAndPurge "t" (Uuid.ofNat 2) 5 (personStore none)) := by
  have stored : personMemory none ∈ (personStore none).memories := mem_singleton_self _
  refine ⟨stored, (drop_and_purge_iff 5 stored rfl).mpr ⟨?_, ?_⟩⟩
  · intro held
    cases held
  · intro entity _ _ subject
    cases subject

end Caura.EntityGraph
