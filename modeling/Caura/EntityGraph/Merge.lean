import Caura.EntityGraph.Statements

/-!
# A merge is the quotient of the graph

The statements of a merge are always accepted, and together they make the tenant's graph
its quotient by the duplicate: the edges of the duplicate are joined to those of the
canonical entity, with the greater weight and the evidence of both, and its links and
subjects are moved.  A loop on the canonical entity never appears; one that it has takes
in the edges between the two.  So a group can be merged in any order.

Of the entities only the duplicate goes, and the canonical gets the attributes of both.
Nothing else changes, except that rows of other tenants that refer to the duplicate, which
is an entity of this one, go with it.
-/

namespace Caura.EntityGraph

open List Caura.Relation.Table

open Caura.Memory (Row)
open Caura.Relation (Table)
open Caura.Value Caura.Quotient

/-! ## Links -/

variable {merge : Merge} {store : Store} {tenantId : String}

section Links

variable {first second : String} {memoryId : Uuid}

theorem isTenantMemory_iff : store.isTenantMemory tenantId memoryId = true ↔
      ∃ memory, store.memories.lookup memoryId = some memory ∧ memory.tenantId = tenantId := by
  simp only [Store.isTenantMemory, any_eq_true, Bool.and_eq_true, beq_iff_eq,
    Table.lookup_eq_some_iff, and_assoc]
  exact .rfl

/-- The link after the two statements. -/
def Merge.movedLink (merge : Merge) (store : Store) (link : Link) : Link :=
  if link.entityId = merge.dupeId ∧ store.isTenantMemory merge.tenantId link.memoryId = true then
    { link with entityId := merge.canonicalId }
  else
    link

/-- The memory of the duplicate's link is linked to the canonical too. -/
def Merge.IsShared (merge : Merge) (store : Store) (link : Link) : Prop :=
  link.entityId = merge.dupeId ∧
    store.isTenantMemory merge.tenantId link.memoryId = true ∧
    ∃ other ∈ store.links, other.entityId = merge.canonicalId ∧ other.memoryId = link.memoryId

theorem mem_deleteSharedLinks_iff {link : Link} : link ∈ (merge.deleteSharedLinks store).links ↔
      link ∈ store.links ∧ ¬ merge.IsShared store link := by
  rw [Merge.deleteSharedLinks, mem_delete_iff]
  apply and_congr_right
  intro _
  rw [← Bool.not_eq_true]
  apply not_congr
  simp only [Bool.and_eq_true, beq_iff_eq, any_eq_true]
  constructor
  · rintro ⟨isDupe, other, otherMem, ⟨isCanonical, sameMemory⟩, ofTenant⟩
    exact ⟨isDupe, sameMemory ▸ ofTenant, other, otherMem, isCanonical, sameMemory⟩
  · rintro ⟨isDupe, ofTenant, other, otherMem, isCanonical, sameMemory⟩
    exact ⟨isDupe, other, otherMem, ⟨isCanonical, sameMemory⟩, sameMemory ▸ ofTenant⟩

/-- The two statements about links are accepted. -/
theorem exists_repointLinks (merge : Merge) (store : Store) :
    ∃ links, merge.repointLinks (merge.deleteSharedLinks store) = some { store with links } ∧
      ∀ link, link ∈ links ↔ ∃ before ∈ store.links,
        ¬ merge.IsShared store before ∧ merge.movedLink store before = link := by
  let deleted := merge.deleteSharedLinks store
  let condition (link : Link) : Bool :=
    link.entityId == merge.dupeId && deleted.isTenantMemory merge.tenantId link.memoryId
  have isMoved : ∀ link : Link, condition link = true ↔ link.entityId = merge.dupeId ∧
      store.isTenantMemory merge.tenantId link.memoryId = true := by
    intro link
    rw [Bool.and_eq_true, beq_iff_eq]
    exact .rfl
  have among : ∀ first ∈ deleted.links, ∀ second ∈ deleted.links, condition first = true →
      condition second = true →
      LinkKey.mk first.memoryId merge.canonicalId = ⟨second.memoryId, merge.canonicalId⟩ →
        first.toLinkKey = second.toLinkKey := by
    intro first _ second _ firstMoved secondMoved same
    have firstDupe := ((isMoved first).mp firstMoved).1
    have secondDupe := ((isMoved second).mp secondMoved).1
    exact LinkKey.ext (LinkKey.mk.inj same).1 (firstDupe.trans secondDupe.symm)
  have free : ∀ first ∈ deleted.links, ∀ second ∈ deleted.links, condition first = true →
      condition second = false →
        LinkKey.mk first.memoryId merge.canonicalId ≠ second.toLinkKey := by
    intro first firstMem second secondMem firstMoved _ same
    obtain ⟨isDupe, ofTenant⟩ := (isMoved first).mp firstMoved
    have secondStored := (mem_deleteSharedLinks_iff.mp secondMem).1
    apply (mem_deleteSharedLinks_iff.mp firstMem).2
    refine ⟨isDupe, ofTenant, second, secondStored, ?_, ?_⟩
    · exact (congrArg LinkKey.entityId same).symm
    · exact (congrArg LinkKey.memoryId same).symm
  obtain ⟨links, accepted, linksEq⟩ := deleted.links.exists_rekey
    (fun link => { link with entityId := merge.canonicalId }) among free
  refine ⟨links, ?_, ?_⟩
  · rw [Merge.repointLinks, accepted]
    rfl
  · intro link
    simp only [linksEq, deleted, mem_deleteSharedLinks_iff, isMoved, and_assoc, Merge.movedLink]

end Links

/-! ## The whole merge -/

/-- An entity without its attributes, which no choice of a run reads. -/
def Entity.bare (entity : Entity) : Entity :=
  { entity with attributes := {} }

/-- The entities of the tenant, without their attributes. -/
def Store.tenantEntities (store : Store) (tenantId : String) : List Entity :=
  (store.entities.rows.map Entity.bare).filter fun entity => entity.tenantId = tenantId

namespace Merge

/-- The tables after a merge, from those after each group of statements. -/
def Ran (merge : Merge) (store after : Store) : Prop :=
  ∃ links outgoing incoming,
    (∀ link, link ∈ links ↔ ∃ before ∈ store.links,
      ¬ merge.IsShared store before ∧ merge.movedLink store before = link) ∧
    merge.RepointedSide .outgoing { store with links } outgoing ∧
    merge.RepointedSide .incoming outgoing incoming ∧
    after = merge.deleteDupe (merge.mergeAttributes (merge.repointSubjects incoming))

/-- No statement of a merge is refused. -/
theorem exists_ran (merge : Merge) (apart : merge.dupeId ≠ merge.canonicalId) (store : Store) :
    ∃ after, merge.entityMergeDupeIntoCanonical store = some after ∧ merge.Ran store after := by
  obtain ⟨links, linked, linksEq⟩ := exists_repointLinks merge store
  obtain ⟨outgoing, movedOut, outEffect⟩ :=
    exists_repointSide apart .outgoing { store with links }
  obtain ⟨incoming, movedIn, inEffect⟩ := exists_repointSide apart .incoming outgoing
  refine ⟨_, ?_, links, outgoing, incoming, linksEq, outEffect, inEffect, rfl⟩
  simp only [entityMergeDupeIntoCanonical, linked, movedOut, movedIn, Option.bind_eq_bind,
    Option.bind_some]
  rfl

/-- A memory after a merge. -/
def movedSubject (merge : Merge) (memory : Row) : Row :=
  if memory.subjectEntityId = some merge.dupeId then
    { memory with
      subjectEntityId :=
        if memory.tenantId = merge.tenantId then some merge.canonicalId else none }
  else
    memory

/-- The duplicate is gone and the canonical is there, with the attributes of both.  The rows
that the merge does not concern are as they were, in every column. -/
structure Kept (merge : Merge) (store after : Store) : Prop where
  dupe : after.entities.lookup merge.dupeId = none
  canonical : after.entities.lookup merge.canonicalId =
    (store.entities.lookup merge.canonicalId).map (merge.combined store)
  entities : ∀ entityId, entityId ≠ merge.canonicalId → entityId ≠ merge.dupeId →
    after.entities.lookup entityId = store.entities.lookup entityId
  memories : ∀ memoryId, after.memories.lookup memoryId =
    (store.memories.lookup memoryId).map merge.movedSubject
  links : ∀ link : Link, link.entityId ≠ merge.canonicalId → link.entityId ≠ merge.dupeId →
    (link ∈ after.links ↔ link ∈ store.links)
  relations : ∀ relation : Relation,
    relation.fromEntityId ≠ merge.canonicalId → relation.fromEntityId ≠ merge.dupeId →
    relation.toEntityId ≠ merge.canonicalId → relation.toEntityId ≠ merge.dupeId →
      (relation ∈ after.relations ↔ relation ∈ store.relations)

variable {after : Store} {link : Link}

theorem tenantId_movedSubject {memory : Row} :
    (merge.movedSubject memory).tenantId = memory.tenantId := by
  unfold movedSubject
  split <;> rfl

theorem edgeAt_deleteDupe (store : Store) (key : NaturalKey) : (merge.deleteDupe store).edgeAt key =
      if key.fromEntityId = merge.dupeId ∨ key.toEntityId = merge.dupeId then ⊥
      else store.edgeAt key :=
  edgeAt_deleteRelations (fun key => key.fromEntityId = merge.dupeId ∨
    key.toEntityId = merge.dupeId) (by simp)

variable (apart : merge.dupeId ≠ merge.canonicalId) (ran : merge.Ran store after)

include apart ran

/-- The edges of the tenant after a merge. -/
theorem Ran.edges : (after.graph merge.tenantId).edges =
    mergeEdges merge.canonicalId {merge.dupeId} (store.graph merge.tenantId).edges := by
  obtain ⟨links, outgoing, incoming, _, outEffect, inEffect, rfl⟩ := ran
  funext source type target
  have moved : incoming.edgeAt (merge.keyAt .incoming target type source) =
      mergeEdges merge.canonicalId {merge.dupeId} (store.graph merge.tenantId).edges
        source type target := by
    rw [inEffect.edgeAt_keyAt, ← absorb_absorb apart]
    congr 1
    funext near type far
    exact outEffect.edgeAt_keyAt far type near
  have deleted : ((merge.deleteDupe (merge.mergeAttributes
      (merge.repointSubjects incoming))).graph merge.tenantId).edges source type target = _ :=
    edgeAt_deleteDupe _ _
  rw [deleted]
  split
  next atDupe =>
    refine (if_pos ?_).symm
    rcases atDupe with isSource | isTarget
    · exact .inl (Finset.mem_singleton.mpr isSource)
    · exact .inr (.inl (Finset.mem_singleton.mpr isTarget))
  · exact moved

theorem Ran.memories (memoryId : Uuid) : after.memories.lookup memoryId =
      (store.memories.lookup memoryId).map merge.movedSubject := by
  obtain ⟨links, outgoing, incoming, _, outEffect, inEffect, rfl⟩ := ran
  have same : incoming.memories = store.memories := inEffect.memories.trans outEffect.memories
  simp only [deleteDupe, mergeAttributes, repointSubjects, lookup_modify, Option.map_map, same]
  congr 1
  funext memory
  have apart' := apart.symm
  by_cases isSubject : memory.subjectEntityId = some merge.dupeId <;>
    by_cases ofTenant : memory.tenantId = merge.tenantId <;>
    simp [movedSubject, isSubject, ofTenant, apart']

theorem Ran.isTenantMemory_iff {memoryId : Uuid} : after.isTenantMemory tenantId memoryId = true ↔
      store.isTenantMemory tenantId memoryId = true := by
  rw [EntityGraph.isTenantMemory_iff, EntityGraph.isTenantMemory_iff, ran.memories apart]
  constructor
  · rintro ⟨_, found, ofTenant⟩
    obtain ⟨memory, memoryFound, rfl⟩ := Option.map_eq_some_iff.mp found
    exact ⟨memory, memoryFound, tenantId_movedSubject.symm.trans ofTenant⟩
  · rintro ⟨memory, found, ofTenant⟩
    exact ⟨_, Option.map_eq_some_iff.mpr ⟨memory, found, rfl⟩, tenantId_movedSubject.trans ofTenant⟩

/-- The subjects of the tenant after a merge. -/
theorem Ran.subject (memoryId : Uuid) : (after.graph merge.tenantId).subject memoryId =
      ((store.graph merge.tenantId).subject memoryId).map fun entityId =>
        if entityId ∈ ({merge.dupeId} : Finset Uuid) then merge.canonicalId else entityId := by
  simp only [Store.graph, ran.memories apart]
  cases store.memories.lookup memoryId with
  | none => rfl
  | some memory =>
    rw [Option.map_some, Option.filter_some, Option.filter_some, tenantId_movedSubject]
    by_cases ofTenant : memory.tenantId = merge.tenantId
    · by_cases isSubject : memory.subjectEntityId = some merge.dupeId
      · simp [movedSubject, ofTenant, isSubject]
      · cases subject : memory.subjectEntityId with
        | none => simp [movedSubject, ofTenant, subject]
        | some entityId =>
          have other : entityId ≠ merge.dupeId :=
            fun same => isSubject (subject.trans (same ▸ rfl))
          simp [movedSubject, ofTenant, subject, other]
    · simp [ofTenant]

omit apart in
theorem Ran.mem_links_iff :
    link ∈ after.links ↔ link.entityId ≠ merge.dupeId ∧ ∃ before ∈ store.links,
      ¬ merge.IsShared store before ∧ merge.movedLink store before = link := by
  obtain ⟨links, outgoing, incoming, linksEq, outEffect, inEffect, rfl⟩ := ran
  have same : incoming.links = links := inEffect.links.trans outEffect.links
  rw [deleteDupe, mem_delete_iff, beq_eq_false_iff_ne, and_comm]
  apply and_congr_right
  intro _
  rw [← linksEq, ← same]
  exact .rfl

omit apart in
/-- A link that is not the duplicate's stays. -/
theorem Ran.mem_links_of_ne (linkMem : link ∈ store.links)
    (elsewhere : link.entityId ≠ merge.dupeId) : link ∈ after.links :=
  ran.mem_links_iff.mpr ⟨elsewhere, link, linkMem, fun shared => elsewhere shared.1,
    if_neg fun isMoved => elsewhere isMoved.1⟩

omit apart in
/-- A link after the merge is an old one, or a link of the duplicate that was moved. -/
theorem Ran.cases_of_mem_links (linkMem : link ∈ after.links) :
    link ∈ store.links ∨ link.entityId = merge.canonicalId ∧
      store.isTenantMemory merge.tenantId link.memoryId = true ∧
      ∃ before ∈ store.links, before.entityId = merge.dupeId ∧ before.memoryId = link.memoryId := by
  obtain ⟨_, before, beforeMem, _, rfl⟩ := ran.mem_links_iff.mp linkMem
  unfold movedLink
  split
  next isMoved => exact .inr ⟨rfl, isMoved.2, before, beforeMem, isMoved.1, rfl⟩
  · exact .inl beforeMem

/-- A memory of the duplicate's is linked to the canonical after the merge. -/
theorem Ran.exists_link_canonical (linkMem : link ∈ store.links)
    (isDupe : link.entityId = merge.dupeId)
    (ofTenant : store.isTenantMemory merge.tenantId link.memoryId = true) :
    ∃ other ∈ after.links, other.toLinkKey = ⟨link.memoryId, merge.canonicalId⟩ := by
  by_cases shared : merge.IsShared store link
  · obtain ⟨_, _, other, otherMem, isCanonical, sameMemory⟩ := shared
    exact ⟨other, ran.mem_links_of_ne otherMem fun same => apart (same.symm.trans isCanonical),
      LinkKey.ext sameMemory isCanonical⟩
  · refine ⟨_, ran.mem_links_iff.mpr ⟨?_, link, linkMem, shared, if_pos ⟨isDupe, ofTenant⟩⟩, rfl⟩
    exact apart.symm

/-- The links of the tenant after a merge. -/
theorem Ran.linked (memoryId entityId : Uuid) :
    (after.graph merge.tenantId).linked memoryId entityId ↔
      entityId ∉ ({merge.dupeId} : Finset Uuid) ∧
        ∃ other ∈ block merge.canonicalId {merge.dupeId} entityId,
          (store.graph merge.tenantId).linked memoryId other := by
  simp only [Store.graph, ran.isTenantMemory_iff apart, isSome_lookup_iff, mem_block_iff,
    Finset.mem_singleton]
  constructor
  · rintro ⟨ofTenant, link, linkMem, isLink⟩
    have notDupe := (ran.mem_links_iff.mp linkMem).1
    rw [isLink] at notDupe
    refine ⟨notDupe, ?_⟩
    rcases ran.cases_of_mem_links linkMem with
      old | ⟨isCanonical, _, before, beforeMem, isDupe, same⟩
    · exact ⟨entityId, .inl rfl, ofTenant, link, old, isLink⟩
    · rw [isLink] at isCanonical same
      exact ⟨merge.dupeId, .inr ⟨isCanonical, rfl⟩, ofTenant, before, beforeMem,
        LinkKey.ext same isDupe⟩
  · rintro ⟨notDupe, other, rfl | ⟨rfl, rfl⟩, ofTenant, link, linkMem, isLink⟩
    · refine ⟨ofTenant, link, ran.mem_links_of_ne linkMem ?_, isLink⟩
      rwa [isLink]
    · have isDupe : link.entityId = merge.dupeId := congrArg LinkKey.entityId isLink
      have sameMemory : link.memoryId = memoryId := congrArg LinkKey.memoryId isLink
      rw [← sameMemory] at ofTenant ⊢
      exact ⟨ofTenant, ran.exists_link_canonical apart linkMem isDupe ofTenant⟩

/-- The tenant's graph after a merge. -/
theorem Ran.graph : after.graph merge.tenantId =
      (store.graph merge.tenantId).quotient merge.canonicalId {merge.dupeId} := by
  ext1
  · exact ran.edges apart
  · funext memoryId entityId
    exact propext (ran.linked apart memoryId entityId)
  · funext memoryId
    exact ran.subject apart memoryId

omit apart

/-- Each entity after a merge. -/
theorem Ran.entities (entityId : Uuid) : after.entities.lookup entityId =
    if entityId = merge.dupeId then none
    else if entityId = merge.canonicalId then
      (store.entities.lookup entityId).map (merge.combined store)
    else store.entities.lookup entityId := by
  obtain ⟨links, outgoing, incoming, _, outEffect, inEffect, rfl⟩ := ran
  have same : incoming.entities = store.entities := inEffect.entities.trans outEffect.entities
  have combined : merge.combined (merge.repointSubjects incoming) = merge.combined store := by
    unfold Merge.combined
    rw [repointSubjects, same]
  simp only [deleteDupe, mergeAttributes, combined, lookup_delete, lookup_modify]
  simp only [repointSubjects, same]
  cases found : store.entities.lookup entityId with
  | none => simp
  | some entity =>
    obtain rfl : entity.id = entityId := (lookup_eq_some_iff.mp found).2
    simp only [Option.map_some, Option.filter_some, beq_iff_eq]
    by_cases isCanonical : entity.id = merge.canonicalId
    · simp only [if_pos isCanonical, id_combined]
      by_cases isDupe : entity.id = merge.dupeId <;> simp [isDupe]
    · simp only [if_neg isCanonical]
      by_cases isDupe : entity.id = merge.dupeId <;> simp [isDupe]

omit ran in
theorem bare_combined {entity : Entity} : (merge.combined store entity).bare = entity.bare := by
  unfold Merge.combined
  split <;> rfl

/-- A merge removes the duplicate and no other entity. -/
theorem Ran.tenantEntities : after.tenantEntities tenantId =
    (store.tenantEntities tenantId).filter fun entity => entity.id ≠ merge.dupeId := by
  obtain ⟨links, outgoing, incoming, _, outEffect, inEffect, rfl⟩ := ran
  have same : incoming.entities = store.entities := inEffect.entities.trans outEffect.entities
  have kept : (incoming.entities.modify (fun entity => entity.id == merge.canonicalId)
      (merge.combined (merge.repointSubjects incoming))
      (merge.id_combined (merge.repointSubjects incoming))).rows.map Entity.bare =
        store.entities.rows.map Entity.bare := by
    rw [map_modify _ _ _ _ fun _ => bare_combined, same]
  have deleted : ∀ rows : List Entity,
      (rows.filter fun entity => !(entity.id == merge.dupeId)).map Entity.bare =
        (rows.map Entity.bare).filter fun entity => entity.id ≠ merge.dupeId := by
    intro rows
    rw [filter_map]
    congr 1
    apply filter_congr
    intro entity _
    by_cases isDupe : entity.id = merge.dupeId <;> simp [Entity.bare, isDupe]
  exact (congrArg _ ((deleted _).trans (congrArg _ kept))).trans (filter_comm ..)

include apart

theorem Ran.kept : merge.Kept store after where
  dupe := (ran.entities _).trans (if_pos rfl)
  canonical := by rw [ran.entities, if_neg apart.symm, if_pos rfl]
  entities := by
    intro entityId notCanonical notDupe
    rw [ran.entities, if_neg notDupe, if_neg notCanonical]
  memories := ran.memories apart
  links := by
    intro link notCanonical notDupe
    constructor
    · intro linkMem
      exact (ran.cases_of_mem_links linkMem).resolve_right fun moved => notCanonical moved.1
    · exact fun linkMem => ran.mem_links_of_ne linkMem notDupe
  relations := by
    intro relation fromAway fromKept toAway toKept
    obtain ⟨links, outgoing, incoming, _, outEffect, inEffect, rfl⟩ := ran
    have moved : relation ∈ incoming.relations ↔ relation ∈ store.relations :=
      (inEffect.elsewhere relation toAway toKept).trans
        (outEffect.elsewhere relation fromAway fromKept)
    rw [← moved]
    refine mem_delete_iff.trans (and_iff_left ?_)
    simp [fromKept, toKept]

end Merge

/-! ## Groups -/

section Groups

variable {canonicalId : Uuid} {dupeIds clusterIds : List Uuid}

section Canonical

variable {hasIdentifierOrQualifier : String → Bool} {entities : List Entity}

theorem chooseCanonical_eq_none
    (chosen : chooseCanonical hasIdentifierOrQualifier entities = none) : entities = [] := by
  cases entities with
  | nil => rfl
  | cons entity entities => cases chosen

theorem chooseCanonical_mem {canonical : Entity}
    (chosen : chooseCanonical hasIdentifierOrQualifier entities = some canonical) :
    canonical ∈ entities := by
  cases entities with
  | nil => cases chosen
  | cons entity entities =>
    cases chosen
    -- The best so far is always one of those already seen.
    refine List.foldlRecOn _ _ (.head _) fun best bestMem next nextMem => ?_
    split
    · exact .tail _ nextMem
    · exact bestMem

end Canonical

theorem nodup_dupesOf_clusterEntities {store : Store} {canonical : Entity} :
    (dupesOf (clusterEntities tenantId clusterIds store) canonical).Nodup := by
  have members : ((store.entities.rows.filter fun entity =>
      clusterIds.contains entity.id && entity.tenantId == tenantId).map Entity.id).Nodup :=
    store.entities.nodup.sublist (filter_sublist.map _)
  have sorted := ((perm_insertionSort (fun first second => first.id.value ≤ second.id.value)
    _).map Entity.id).nodup_iff.mpr members
  exact sorted.sublist (filter_sublist.map _)

end Groups

/-- Two entities, the second a duplicate of the first. -/
def loopEntities : List Entity :=
  [{ id := Uuid.ofNat 1, tenantId := "t", canonicalName := "ada lovelace", createdAt := 0 },
   { id := Uuid.ofNat 2, tenantId := "t", canonicalName := "ada", createdAt := 1 }]

/-- A relation of the canonical to itself, and a heavier one of the duplicate to it. -/
def loopRelations : List Relation :=
  [{ tenantId := "t", fromEntityId := Uuid.ofNat 1, relationType := "knows"
     toEntityId := Uuid.ofNat 1, id := Uuid.ofNat 3 },
   { tenantId := "t", fromEntityId := Uuid.ofNat 2, relationType := "knows"
     toEntityId := Uuid.ofNat 1, id := Uuid.ofNat 4, weight := (5 : ℚ) }]

/-- The memory that asserts the second relation. -/
def loopMemory : Row :=
  { id := Uuid.ofNat 5, tenantId := "t", agentId := "ann", createdAt := none
    subjectEntityId := some (Uuid.ofNat 2) }

/-- Their graph. -/
def loopStore : Store where
  entities := ⟨loopEntities, by decide +kernel⟩
  memories := ⟨[loopMemory], nodup_singleton _⟩
  links := Table.empty
  relations := ⟨loopRelations, by decide +kernel⟩
  naturalKeys := by decide +kernel
  evidence := {(Uuid.ofNat 4, Uuid.ofNat 5)}

end Caura.EntityGraph
