import Caura.EntityGraph.Store

/-!
# What the statements do to the edges

Each statement of a merge is described by what becomes of the label of every natural key,
whatever the rows behind them.  Raising the weights and copying the evidence joins the
label of a duplicate's relation to that of the canonical's; the deletion takes away the
duplicate's; and the move puts what is left of them in their new place, which is free.
Together the four statements absorb the duplicate at one end of the edges.
-/

namespace Caura.EntityGraph

open List Caura.Relation.Table

open Caura.Relation (Table)
open Caura.Value Caura.Quotient

/-! ## Keys -/

variable {key : NaturalKey}

namespace Side

variable (side : Side) {other : NaturalKey} {entityId : Uuid}

@[simp]
theorem near_repoint : side.near (side.repoint entityId key) = entityId := by
  cases side <;> rfl

@[simp]
theorem far_repoint : side.far (side.repoint entityId key) = side.far key := by
  cases side <;> rfl

@[simp]
theorem tenantId_repoint : (side.repoint entityId key).tenantId = key.tenantId := by
  cases side <;> rfl

@[simp]
theorem relationType_repoint : (side.repoint entityId key).relationType = key.relationType := by
  cases side <;> rfl

@[simp]
theorem repoint_repoint {otherId : Uuid} :
    side.repoint otherId (side.repoint entityId key) = side.repoint otherId key := by
  cases side <;> rfl

theorem repoint_near (isNear : side.near key = entityId) : side.repoint entityId key = key := by
  cases side <;> cases isNear <;> rfl

/-- A key is determined by its tenant, its type and its ends. -/
theorem key_eq_iff : key = other ↔ key.tenantId = other.tenantId ∧
    side.near key = side.near other ∧ key.relationType = other.relationType ∧
      side.far key = side.far other := by
  cases key
  cases other
  cases side <;> simp only [NaturalKey.mk.injEq, near, far]
  tauto

end Side

/-! ## Labels -/

variable {relation : Relation}

section Labels

variable {store : Store}

theorem relationAt_eq_some_iff : store.relationAt key = some relation ↔
    relation ∈ store.relations ∧ relation.toNaturalKey = key :=
  lookup_eq_some_iff

theorem relationAt_toNaturalKey (relationMem : relation ∈ store.relations) :
    store.relationAt relation.toNaturalKey = some relation :=
  relationAt_eq_some_iff.mpr ⟨relationMem, rfl⟩

theorem eq_of_toNaturalKey_eq {other : Relation} (relationMem : relation ∈ store.relations)
    (otherMem : other ∈ store.relations)
    (keyEq : relation.toNaturalKey = other.toNaturalKey) : relation = other :=
  inj_on_of_nodup_map store.naturalKeys relationMem otherMem keyEq

theorem edgeAt_of_some (found : store.relationAt key = some relation) :
    store.edgeAt key = WithBot.some (relation.weight, store.evidenceOf relation.id) := by
  rw [Store.edgeAt, found]

theorem edgeAt_of_none (absent : store.relationAt key = none) : store.edgeAt key = ⊥ := by
  rw [Store.edgeAt, absent]

theorem edgeAt_eq_bot_iff : store.edgeAt key = ⊥ ↔ store.relationAt key = none := by
  cases found : store.relationAt key with
  | none => simp [edgeAt_of_none found]
  | some relation =>
    rw [edgeAt_of_some found]
    exact iff_of_false WithBot.coe_ne_bot (Option.some_ne_none relation)

theorem exists_relationAt (present : store.edgeAt key ≠ ⊥) :
    ∃ relation, store.relationAt key = some relation :=
  Option.ne_none_iff_exists'.mp fun absent => present (edgeAt_of_none absent)

theorem mem_evidenceOf {relationId memoryId : Uuid} :
    memoryId ∈ store.evidenceOf relationId ↔ (relationId, memoryId) ∈ store.evidence := by
  simp [Store.evidenceOf]

end Labels

/-! ## Weights and evidence -/

namespace Merge

variable {merge : Merge} {side : Side} {store : Store}

/-- The key is of the tenant's relations at the canonical. -/
def IsCanonicals (merge : Merge) (side : Side) (key : NaturalKey) : Prop :=
  side.near key = merge.canonicalId ∧ key.tenantId = merge.tenantId

/-- The key is of the tenant's relations at the duplicate. -/
def IsDupes (merge : Merge) (side : Side) (key : NaturalKey) : Prop :=
  side.near key = merge.dupeId ∧ key.tenantId = merge.tenantId

instance (key : NaturalKey) : Decidable (merge.IsCanonicals side key) :=
  inferInstanceAs (Decidable (_ ∧ _))

instance (key : NaturalKey) : Decidable (merge.IsDupes side key) :=
  inferInstanceAs (Decidable (_ ∧ _))

variable {ofCanonical ofDupe : Relation}

theorem collides_iff : merge.collides side ofCanonical ofDupe = true ↔
      merge.IsCanonicals side ofCanonical.toNaturalKey ∧
        ofDupe.toNaturalKey = side.repoint merge.dupeId ofCanonical.toNaturalKey := by
  rw [side.key_eq_iff]
  simp only [collides, Bool.and_eq_true, beq_iff_eq, Side.tenantId_repoint,
    Side.near_repoint, Side.relationType_repoint, Side.far_repoint]
  constructor
  · rintro ⟨⟨⟨⟨⟨dupeNear, dupeTenant⟩, near⟩, tenant⟩, type⟩, far⟩
    exact ⟨⟨near, tenant⟩, dupeTenant.trans tenant.symm, dupeNear, type.symm, far.symm⟩
  · rintro ⟨⟨near, tenant⟩, dupeTenant, dupeNear, type, far⟩
    exact ⟨⟨⟨⟨⟨dupeNear, dupeTenant.trans tenant⟩, near⟩, tenant⟩, type.symm⟩, far.symm⟩

/-- A relation of the canonical collides with the one that has its key at the duplicate. -/
theorem find_collides_eq_some_iff :
    store.relations.rows.find? (merge.collides side relation) = some ofDupe ↔
      merge.IsCanonicals side relation.toNaturalKey ∧
        store.relationAt (side.repoint merge.dupeId relation.toNaturalKey) = some ofDupe := by
  rw [relationAt_eq_some_iff]
  constructor
  · intro found
    obtain ⟨isCanonicals, atDupe⟩ := collides_iff.mp (List.find?_some found)
    exact ⟨isCanonicals, mem_of_find?_eq_some found, atDupe⟩
  · rintro ⟨isCanonicals, ofDupeMem, atDupe⟩
    cases found : store.relations.rows.find? (merge.collides side relation) with
    | none =>
      have absent := List.find?_eq_none.mp found ofDupe ofDupeMem
      exact absurd (collides_iff.mpr ⟨isCanonicals, atDupe⟩) absent
    | some other =>
      have otherAt := (collides_iff.mp (List.find?_some found)).2
      rw [eq_of_toNaturalKey_eq (mem_of_find?_eq_some found) ofDupeMem (otherAt.trans atDupe.symm)]

theorem mem_raiseWeights_iff : relation ∈ (merge.raiseWeights side store).relations ↔
      ∃ before ∈ store.relations, merge.raised side store before = relation :=
  mem_map

theorem relationAt_raiseWeights (merge : Merge) (side : Side) (store : Store) (key : NaturalKey) :
    (merge.raiseWeights side store).relationAt key =
      (store.relationAt key).map (merge.raised side store) :=
  lookup_modify store.byNaturalKey (fun _ => true) _ (merge.toNaturalKey_raised side store) key

variable {relationId memoryId : Uuid}

theorem mem_evidence_carryEvidence :
    (relationId, memoryId) ∈ (merge.carryEvidence side store).evidence ↔
      (relationId, memoryId) ∈ store.evidence ∨
        ∃ ofCanonical ∈ store.relations, ofCanonical.id = relationId ∧
          ∃ ofDupe ∈ store.relations, merge.collides side ofCanonical ofDupe = true ∧
            (ofDupe.id, memoryId) ∈ store.evidence := by
  simp only [carryEvidence, Finset.mem_union, Finset.mem_biUnion, mem_toFinset,
    mem_map, mem_filter, any_eq_true, Bool.and_eq_true, beq_iff_eq,
    Prod.mk.injEq, Prod.exists]
  apply or_congr_right
  constructor
  · rintro ⟨_, _, evidence, ofCanonical, ⟨canonicalMem, ofDupe, dupeMem, rfl, collides⟩, rfl, rfl⟩
    exact ⟨ofCanonical, canonicalMem, rfl, ofDupe, dupeMem, collides, evidence⟩
  · rintro ⟨ofCanonical, canonicalMem, rfl, ofDupe, dupeMem, collides, evidence⟩
    exact ⟨_, _, evidence, ofCanonical, ⟨canonicalMem, ofDupe, dupeMem, rfl, collides⟩, rfl, rfl⟩

section

variable (relationMem : relation ∈ store.relations)

include relationMem

/-- The evidence of a relation after the first two statements. -/
theorem mem_evidenceOf_carryEvidence_raiseWeights :
    memoryId ∈ (merge.carryEvidence side (merge.raiseWeights side store)).evidenceOf relation.id ↔
      memoryId ∈ store.evidenceOf relation.id ∨
        ∃ ofDupe, store.relations.rows.find? (merge.collides side relation) = some ofDupe ∧
          memoryId ∈ store.evidenceOf ofDupe.id := by
  simp only [mem_evidenceOf, mem_evidence_carryEvidence, find_collides_eq_some_iff,
    relationAt_eq_some_iff, collides_iff]
  apply or_congr_right
  constructor
  · rintro ⟨_, canonicalMem, sameId, _, dupeMem, ⟨isCanonicals, atDupe⟩, evidence⟩
    obtain ⟨before, beforeMem, rfl⟩ := mem_raiseWeights_iff.mp canonicalMem
    obtain ⟨ofDupe, ofDupeMem, rfl⟩ := mem_raiseWeights_iff.mp dupeMem
    simp only [id_raised, toNaturalKey_raised] at sameId isCanonicals atDupe evidence
    cases eq_of_key_eq beforeMem relationMem sameId
    exact ⟨ofDupe, ⟨isCanonicals, ofDupeMem, atDupe⟩, evidence⟩
  · rintro ⟨ofDupe, ⟨isCanonicals, ofDupeMem, atDupe⟩, evidence⟩
    refine ⟨_, mem_raiseWeights_iff.mpr ⟨relation, relationMem, rfl⟩, merge.id_raised side _ _, _,
      mem_raiseWeights_iff.mpr ⟨ofDupe, ofDupeMem, rfl⟩, ?_⟩
    simp only [id_raised, toNaturalKey_raised]
    exact ⟨⟨isCanonicals, atDupe⟩, evidence⟩

/-- A relation keeps its label, or has that of the duplicate's it collides with as well. -/
theorem edgeAt_joined :
    (merge.carryEvidence side (merge.raiseWeights side store)).edgeAt relation.toNaturalKey =
      match store.relations.rows.find? (merge.collides side relation) with
      | none => store.edgeAt relation.toNaturalKey
      | some _ => store.edgeAt relation.toNaturalKey ⊔
          store.edgeAt (side.repoint merge.dupeId relation.toNaturalKey) := by
  have found := relationAt_toNaturalKey relationMem
  have raisedAt := merge.relationAt_raiseWeights side store relation.toNaturalKey
  rw [found] at raisedAt
  have label : (merge.carryEvidence side (merge.raiseWeights side store)).edgeAt
      relation.toNaturalKey = WithBot.some _ := edgeAt_of_some raisedAt
  rw [label, id_raised, raised, edgeAt_of_some found]
  cases collision : store.relations.rows.find? (merge.collides side relation) with
  | none =>
    have same : (merge.carryEvidence side (merge.raiseWeights side store)).evidenceOf
        relation.id = store.evidenceOf relation.id := by
      ext memoryId
      simp [mem_evidenceOf_carryEvidence_raiseWeights relationMem, collision]
    rw [same]
  | some ofDupe =>
    have both : (merge.carryEvidence side (merge.raiseWeights side store)).evidenceOf
        relation.id = store.evidenceOf relation.id ∪ store.evidenceOf ofDupe.id := by
      ext memoryId
      simp [mem_evidenceOf_carryEvidence_raiseWeights relationMem, collision]
    rw [both, edgeAt_of_some (find_collides_eq_some_iff.mp collision).2]
    rfl

end

/-- The first two statements join the duplicate's labels to those of the canonical. -/
theorem edgeAt_carryEvidence_raiseWeights (merge : Merge) (side : Side) (store : Store)
    (key : NaturalKey) :
    (merge.carryEvidence side (merge.raiseWeights side store)).edgeAt key =
      if merge.IsCanonicals side key ∧ store.edgeAt key ≠ ⊥ then
        store.edgeAt key ⊔ store.edgeAt (side.repoint merge.dupeId key)
      else store.edgeAt key := by
  cases found : store.relationAt key with
  | none =>
    have raisedAt := merge.relationAt_raiseWeights side store key
    rw [found] at raisedAt
    rw [edgeAt_of_none found, if_neg (fun both => both.2 rfl)]
    exact edgeAt_of_none raisedAt
  | some relation =>
    obtain ⟨relationMem, rfl⟩ := relationAt_eq_some_iff.mp found
    have present : store.edgeAt relation.toNaturalKey ≠ ⊥ := by
      rw [edgeAt_of_some found]
      exact WithBot.coe_ne_bot
    cases collision : store.relations.rows.find? (merge.collides side relation) with
    | none =>
      rw [edgeAt_joined relationMem, collision]
      dsimp only
      split
      next both =>
        have absent : store.edgeAt (side.repoint merge.dupeId relation.toNaturalKey) = ⊥ := by
          by_contra atDupe
          obtain ⟨ofDupe, dupeFound⟩ := exists_relationAt atDupe
          rw [find_collides_eq_some_iff.mpr ⟨both.1, dupeFound⟩] at collision
          cases collision
        rw [absent, sup_bot_eq]
      · rfl
    | some ofDupe =>
      have isCanonicals := (find_collides_eq_some_iff.mp collision).1
      rw [edgeAt_joined relationMem, collision, if_pos ⟨isCanonicals, present⟩]

end Merge

/-! ## Deletions -/

section Delete

variable {store : Store} {condition : Relation → Bool}

theorem relationAt_deleteRelations : (store.deleteRelations condition).relationAt key =
    (store.relationAt key).filter fun relation => !condition relation :=
  store.byNaturalKey.lookup_delete condition key

/-- A deletion keeps the evidence of the relations that stay. -/
theorem evidenceOf_deleteRelations {relation : Relation}
    (relationMem : relation ∈ store.relations) (kept : condition relation = false) :
    (store.deleteRelations condition).evidenceOf relation.id = store.evidenceOf relation.id := by
  ext memoryId
  rw [mem_evidenceOf, mem_evidenceOf, Store.deleteRelations, Finset.mem_filter,
    Bool.not_eq_true', any_eq_false]
  apply and_iff_left
  intro other otherMem
  rw [Bool.and_eq_true, beq_iff_eq]
  rintro ⟨sameId, deleted⟩
  rw [eq_of_key_eq otherMem relationMem sameId, kept] at deleted
  cases deleted

/-- A deletion by natural keys takes their labels away. -/
theorem edgeAt_deleteRelations (Deleted : NaturalKey → Prop) [DecidablePred Deleted]
    (byKey : ∀ relation ∈ store.relations,
      condition relation = true ↔ Deleted relation.toNaturalKey) :
    (store.deleteRelations condition).edgeAt key =
      if Deleted key then ⊥ else store.edgeAt key := by
  have filtered : (store.deleteRelations condition).relationAt key = _ :=
    relationAt_deleteRelations
  cases found : store.relationAt key with
  | none =>
    rw [found] at filtered
    rw [edgeAt_of_none filtered, edgeAt_of_none found, ite_self]
  | some relation =>
    obtain ⟨relationMem, rfl⟩ := relationAt_eq_some_iff.mp found
    rw [found, Option.filter_some] at filtered
    by_cases deleted : condition relation = true
    · rw [deleted] at filtered
      rw [edgeAt_of_none filtered, if_pos ((byKey relation relationMem).mp deleted)]
    · have kept := Bool.eq_false_of_not_eq_true deleted
      rw [kept] at filtered
      rw [edgeAt_of_some filtered, evidenceOf_deleteRelations relationMem kept,
        if_neg fun isDeleted => deleted ((byKey relation relationMem).mpr isDeleted),
        edgeAt_of_some found]

end Delete

namespace Merge

variable {merge : Merge} {side : Side} {store : Store}

/-- A key of the duplicate that would become a loop or one that the canonical has. -/
def Redundant (merge : Merge) (side : Side) (store : Store) (key : NaturalKey) : Prop :=
  merge.IsDupes side key ∧ (side.far key = merge.canonicalId ∨
    store.edgeAt (side.repoint merge.canonicalId key) ≠ ⊥)

instance : DecidablePred (merge.Redundant side store) :=
  fun _ => inferInstanceAs (Decidable (_ ∧ (_ ∨ _)))

theorem isRedundant_iff : merge.isRedundant side store relation = true ↔
      merge.Redundant side store relation.toNaturalKey := by
  simp only [isRedundant, Bool.and_eq_true, Bool.or_eq_true, beq_iff_eq, any_eq_true]
  apply and_congr_right
  rintro ⟨_, tenant⟩
  apply or_congr_right
  rw [ne_eq, edgeAt_eq_bot_iff, ← ne_eq, Option.ne_none_iff_exists']
  apply exists_congr
  intro other
  rw [relationAt_eq_some_iff, side.key_eq_iff]
  simp only [Side.tenantId_repoint, Side.near_repoint, Side.relationType_repoint,
    Side.far_repoint, tenant]
  apply and_congr_right
  intro _
  constructor
  · rintro ⟨⟨⟨near, otherTenant⟩, type⟩, far⟩
    exact ⟨otherTenant, near, type, far⟩
  · rintro ⟨otherTenant, near, type, far⟩
    exact ⟨⟨⟨near, otherTenant⟩, type⟩, far⟩

/-- The third statement takes the labels of these keys away. -/
theorem edgeAt_deleteRedundant (merge : Merge) (side : Side) (store : Store)
    (key : NaturalKey) : (merge.deleteRedundant side store).edgeAt key =
      if merge.Redundant side store key then ⊥ else store.edgeAt key :=
  edgeAt_deleteRelations (merge.Redundant side store) fun _ _ => isRedundant_iff

/-! ## Moves -/

/-- The keys that the duplicate's relations move to are free. -/
def Free (merge : Merge) (side : Side) (store : Store) : Prop :=
  ∀ key, merge.IsDupes side key → store.edgeAt key ≠ ⊥ →
    store.edgeAt (side.repoint merge.canonicalId key) = ⊥

theorem free_deleteRedundant : merge.Free side (merge.deleteRedundant side store) := by
  intro key isDupes present
  rw [edgeAt_deleteRedundant] at present ⊢
  split at present
  · exact absurd rfl present
  next kept =>
    have absent : store.edgeAt (side.repoint merge.canonicalId key) = ⊥ := by
      by_contra taken
      exact kept ⟨isDupes, .inr taken⟩
    rw [absent, ite_self]

/-- A relation after the move. -/
def moved (merge : Merge) (side : Side) (relation : Relation) : Relation :=
  if merge.IsDupes side relation.toNaturalKey then relation.repoint side merge.canonicalId
  else relation

theorem isMoved_iff : (side.near relation.toNaturalKey == merge.dupeId &&
      relation.tenantId == merge.tenantId) = true ↔ merge.IsDupes side relation.toNaturalKey := by
  rw [Bool.and_eq_true, beq_iff_eq, beq_iff_eq]
  exact .rfl

theorem mem_repointedRelations_iff : relation ∈ merge.repointedRelations side store ↔
      ∃ before ∈ store.relations, merge.moved side before = relation := by
  rw [repointedRelations, mem_modify_iff]
  simp only [isMoved_iff, moved]

/-- The relations are moved with their evidence, and the other tables stay. -/
structure Moves (merge : Merge) (side : Side) (store after : Store) : Prop where
  relations : ∀ relation, relation ∈ after.relations ↔
    ∃ before ∈ store.relations, merge.moved side before = relation
  evidence : after.evidence = store.evidence
  entities : after.entities = store.entities
  memories : after.memories = store.memories
  links : after.links = store.links

/-- The fourth statement is accepted if the keys are free. -/
theorem exists_repointRelations (free : merge.Free side store) :
    ∃ after, merge.repointRelations side store = some after ∧ merge.Moves side store after := by
  have accepted : ((merge.repointedRelations side store).rows.map Relation.toNaturalKey).Nodup := by
    apply nodup_map_ite store.naturalKeys
    · intro first _ second _ firstMoved secondMoved same
      have firstNear := (isMoved_iff.mp firstMoved).1
      have secondNear := (isMoved_iff.mp secondMoved).1
      have back := congrArg (side.repoint merge.dupeId) same
      rwa [Relation.toNaturalKey_repoint, Relation.toNaturalKey_repoint, Side.repoint_repoint,
        Side.repoint_repoint, side.repoint_near firstNear, side.repoint_near secondNear] at back
    · intro first firstMem second secondMem firstMoved _ same
      have present : store.edgeAt first.toNaturalKey ≠ ⊥ := by
        rw [edgeAt_of_some (relationAt_toNaturalKey firstMem)]
        exact WithBot.coe_ne_bot
      have taken := free first.toNaturalKey (isMoved_iff.mp firstMoved) present
      rw [← Relation.toNaturalKey_repoint, same,
        edgeAt_of_some (relationAt_toNaturalKey secondMem)] at taken
      exact WithBot.coe_ne_bot taken
  exact ⟨_, dif_pos accepted, fun _ => mem_repointedRelations_iff, rfl, rfl, rfl, rfl⟩

section Moves

variable {after : Store}

section

variable (moves : merge.Moves side store after)

include moves

/-- The relation at a key after the move was there before it, and was not moved, or was
moved there. -/
theorem Moves.relationAt_eq_some_iff : after.relationAt key = some relation ↔
      (¬ merge.IsDupes side key ∧ store.relationAt key = some relation) ∨
      merge.IsCanonicals side key ∧ ∃ before,
        store.relationAt (side.repoint merge.dupeId key) = some before ∧
          relation = before.repoint side merge.canonicalId := by
  simp only [EntityGraph.relationAt_eq_some_iff, moves.relations]
  constructor
  · rintro ⟨⟨before, beforeMem, rfl⟩, rfl⟩
    by_cases isDupes : merge.IsDupes side before.toNaturalKey
    · rw [moved, if_pos isDupes]
      refine .inr ⟨⟨side.near_repoint, side.tenantId_repoint.trans isDupes.2⟩, before,
        ⟨beforeMem, ?_⟩, rfl⟩
      rw [Relation.toNaturalKey_repoint, Side.repoint_repoint, side.repoint_near isDupes.1]
    · rw [moved, if_neg isDupes]
      exact .inl ⟨isDupes, beforeMem, rfl⟩
  · rintro (⟨foreign, beforeMem, rfl⟩ | ⟨isCanonicals, before, ⟨beforeMem, atDupe⟩, rfl⟩)
    · exact ⟨⟨relation, beforeMem, if_neg foreign⟩, rfl⟩
    · have isDupes : merge.IsDupes side before.toNaturalKey := by
        rw [atDupe]
        exact ⟨side.near_repoint, side.tenantId_repoint.trans isCanonicals.2⟩
      refine ⟨⟨before, beforeMem, if_pos isDupes⟩, ?_⟩
      rw [Relation.toNaturalKey_repoint, atDupe, Side.repoint_repoint,
        side.repoint_near isCanonicals.1]

theorem Moves.evidenceOf (relationId : Uuid) :
    after.evidenceOf relationId = store.evidenceOf relationId := by
  rw [Store.evidenceOf, moves.evidence, Store.evidenceOf]

/-- A relation that is not the duplicate's keeps its place. -/
theorem Moves.edgeAt_of_kept (foreign : ¬ merge.IsDupes side key) (present : store.edgeAt key ≠ ⊥) :
    after.edgeAt key = store.edgeAt key := by
  obtain ⟨relation, found⟩ := exists_relationAt present
  rw [edgeAt_of_some (moves.relationAt_eq_some_iff.mpr (.inl ⟨foreign, found⟩)),
    edgeAt_of_some found, moves.evidenceOf]

/-- A relation of the duplicate is found at the canonical. -/
theorem Moves.edgeAt_of_moved (isCanonicals : merge.IsCanonicals side key)
    (present : store.edgeAt (side.repoint merge.dupeId key) ≠ ⊥) :
    after.edgeAt key = store.edgeAt (side.repoint merge.dupeId key) := by
  obtain ⟨before, found⟩ := exists_relationAt present
  rw [edgeAt_of_some (moves.relationAt_eq_some_iff.mpr (.inr ⟨isCanonicals, before, found, rfl⟩)),
    edgeAt_of_some found, moves.evidenceOf]
  rfl

/-- Nothing else gets to a key. -/
theorem Moves.edgeAt_eq_bot (unkept : ¬ merge.IsDupes side key → store.edgeAt key = ⊥)
    (unmoved : merge.IsCanonicals side key →
      store.edgeAt (side.repoint merge.dupeId key) = ⊥) : after.edgeAt key = ⊥ := by
  by_contra present
  obtain ⟨relation, found⟩ := exists_relationAt present
  rcases moves.relationAt_eq_some_iff.mp found with
    ⟨foreign, atKey⟩ | ⟨isCanonicals, before, atDupe, _⟩
  · rw [edgeAt_eq_bot_iff.mp (unkept foreign)] at atKey
    cases atKey
  · rw [edgeAt_eq_bot_iff.mp (unmoved isCanonicals)] at atDupe
    cases atDupe

/-- The fourth statement moves the duplicate's labels to the canonical. -/
theorem Moves.edgeAt (apart : merge.dupeId ≠ merge.canonicalId) (free : merge.Free side store)
    (key : NaturalKey) : after.edgeAt key =
      if merge.IsDupes side key then ⊥
      else if merge.IsCanonicals side key then
        store.edgeAt key ⊔ store.edgeAt (side.repoint merge.dupeId key)
      else store.edgeAt key := by
  split
  next isDupes =>
    apply moves.edgeAt_eq_bot (absurd isDupes)
    exact fun isCanonicals => absurd (isDupes.1.symm.trans isCanonicals.1) apart
  next foreign =>
    by_cases present : store.edgeAt key = ⊥
    · split
      next isCanonicals =>
        rw [present, bot_sup_eq]
        by_cases atDupe : store.edgeAt (side.repoint merge.dupeId key) = ⊥
        · rw [atDupe]
          exact moves.edgeAt_eq_bot (fun _ => present) fun _ => atDupe
        · exact moves.edgeAt_of_moved isCanonicals atDupe
      next elsewhere =>
        rw [present]
        exact moves.edgeAt_eq_bot (fun _ => present) fun isCanonicals =>
          absurd isCanonicals elsewhere
    · rw [moves.edgeAt_of_kept foreign present]
      split
      next isCanonicals =>
        -- What would move to a taken key has been deleted.
        have absent : store.edgeAt (side.repoint merge.dupeId key) = ⊥ := by
          by_contra atDupe
          have taken := free _ ⟨side.near_repoint, side.tenantId_repoint.trans isCanonicals.2⟩
            atDupe
          rw [Side.repoint_repoint, side.repoint_near isCanonicals.1] at taken
          exact present taken
        rw [absent, sup_bot_eq]
      · rfl

end

end Moves

/-! ## One end of the relations -/

/-- The labels after the four statements, key by key. -/
def sideEdge (merge : Merge) (side : Side) (store : Store) (key : NaturalKey) : Label :=
  if merge.IsDupes side key then
    ⊥
  else if merge.IsCanonicals side key then
    if side.far key = merge.canonicalId ∧ store.edgeAt key = ⊥ then ⊥
    else store.edgeAt key ⊔ store.edgeAt (side.repoint merge.dupeId key)
  else
    store.edgeAt key

/-- What the move makes of the labels that the other statements leave. -/
theorem sideEdge_eq (apart : merge.dupeId ≠ merge.canonicalId) (key : NaturalKey) :
    let joined := merge.carryEvidence side (merge.raiseWeights side store)
    let kept := merge.deleteRedundant side joined
    (if merge.IsDupes side key then ⊥
      else if merge.IsCanonicals side key then
        kept.edgeAt key ⊔ kept.edgeAt (side.repoint merge.dupeId key)
      else kept.edgeAt key) = merge.sideEdge side store key := by
  intro joined kept
  have joinedEdge : ∀ other, joined.edgeAt other = _ := edgeAt_carryEvidence_raiseWeights _ _ _
  have keptEdge : ∀ other, kept.edgeAt other = _ := edgeAt_deleteRedundant _ _ _
  unfold sideEdge
  by_cases isDupes : merge.IsDupes side key
  · rw [if_pos isDupes, if_pos isDupes]
  · have keptKey : kept.edgeAt key = joined.edgeAt key :=
      (keptEdge key).trans (if_neg fun redundant => isDupes redundant.1)
    rw [if_neg isDupes, if_neg isDupes, keptKey]
    by_cases isCanonicals : merge.IsCanonicals side key
    · have atDupe : joined.edgeAt (side.repoint merge.dupeId key) =
          store.edgeAt (side.repoint merge.dupeId key) := by
        rw [joinedEdge, if_neg fun both => apart (side.near_repoint.symm.trans both.1.1)]
      have redundant : merge.Redundant side joined (side.repoint merge.dupeId key) ↔
          side.far key = merge.canonicalId ∨ joined.edgeAt key ≠ ⊥ := by
        rw [Redundant, Side.far_repoint, Side.repoint_repoint, side.repoint_near isCanonicals.1]
        exact and_iff_right ⟨side.near_repoint, side.tenantId_repoint.trans isCanonicals.2⟩
      rw [if_pos isCanonicals, if_pos isCanonicals, keptEdge, atDupe]
      simp only [redundant, joinedEdge key]
      by_cases absent : store.edgeAt key = ⊥
      · simp [absent]
      · simp [absent, isCanonicals]
    · rw [if_neg isCanonicals, if_neg isCanonicals, joinedEdge,
        if_neg fun both => isCanonicals both.1]

/-- What the four statements do: they give every key its label, and leave the relations
elsewhere and the other tables alone. -/
structure RepointedSide (merge : Merge) (side : Side) (store after : Store) : Prop where
  entities : after.entities = store.entities
  memories : after.memories = store.memories
  links : after.links = store.links
  edgeAt : ∀ key, after.edgeAt key = merge.sideEdge side store key
  elsewhere : ∀ relation : Relation, side.near relation.toNaturalKey ≠ merge.canonicalId →
    side.near relation.toNaturalKey ≠ merge.dupeId →
      (relation ∈ after.relations ↔ relation ∈ store.relations)

theorem raised_of_near_ne (elsewhere : side.near relation.toNaturalKey ≠ merge.canonicalId) :
    merge.raised side store relation = relation := by
  cases collision : store.relations.rows.find? (merge.collides side relation) with
  | none => rw [raised, collision]
  | some ofDupe => exact absurd (find_collides_eq_some_iff.mp collision).1.1 elsewhere

/-- The four statements are accepted. -/
theorem exists_repointSide (apart : merge.dupeId ≠ merge.canonicalId) (side : Side)
    (store : Store) :
    ∃ after, merge.repointSide side store = some after ∧ merge.RepointedSide side store after := by
  have free : merge.Free side (merge.deleteRedundant side
      (merge.carryEvidence side (merge.raiseWeights side store))) := free_deleteRedundant
  obtain ⟨after, accepted, moves⟩ := exists_repointRelations free
  refine ⟨after, accepted, moves.entities, moves.memories, moves.links, ?_, ?_⟩
  · intro key
    rw [moves.edgeAt apart free, ← sideEdge_eq apart]
  · intro relation notCanonicals notDupes
    rw [moves.relations]
    constructor
    · rintro ⟨before, beforeMem, rfl⟩
      unfold moved at notCanonicals ⊢
      split at notCanonicals
      · exact absurd side.near_repoint notCanonicals
      next foreign =>
        rw [if_neg foreign]
        obtain ⟨raised, _⟩ := mem_delete_iff.mp beforeMem
        obtain ⟨original, originalMem, rfl⟩ := mem_raiseWeights_iff.mp raised
        rw [toNaturalKey_raised] at notCanonicals
        rwa [raised_of_near_ne notCanonicals]
    · intro relationMem
      refine ⟨relation, mem_delete_iff.mpr ⟨mem_raiseWeights_iff.mpr
        ⟨relation, relationMem, raised_of_near_ne notCanonicals⟩, ?_⟩, if_neg ?_⟩
      · rw [Bool.eq_false_iff]
        exact fun redundant => notDupes (isRedundant_iff.mp redundant).1.1
      · exact fun isDupes => notDupes isDupes.1

/-! ## Absorption -/

/-- The key of the tenant's relation with the given ends. -/
def keyAt (merge : Merge) : Side → Uuid → String → Uuid → NaturalKey
  | .outgoing, near, relationType, far =>
    { tenantId := merge.tenantId, fromEntityId := near, relationType, toEntityId := far }
  | .incoming, near, relationType, far =>
    { tenantId := merge.tenantId, fromEntityId := far, relationType, toEntityId := near }

section KeyAt

variable {near far : Uuid} {relationType : String}

theorem isDupes_keyAt_iff :
    merge.IsDupes side (merge.keyAt side near relationType far) ↔ near = merge.dupeId := by
  cases side <;> exact and_iff_left rfl

theorem isCanonicals_keyAt_iff : merge.IsCanonicals side (merge.keyAt side near relationType far) ↔
      near = merge.canonicalId := by
  cases side <;> exact and_iff_left rfl

@[simp]
theorem far_keyAt : side.far (merge.keyAt side near relationType far) = far := by
  cases side <;> rfl

@[simp]
theorem repoint_keyAt {entityId : Uuid} :
    side.repoint entityId (merge.keyAt side near relationType far) =
      merge.keyAt side entityId relationType far := by
  cases side <;> rfl

end KeyAt

/-- The four statements absorb the duplicate at their end of the tenant's edges. -/
theorem RepointedSide.edgeAt_keyAt {after : Store}
    (repointed : merge.RepointedSide side store after) (near : Uuid) (relationType : String)
    (far : Uuid) : after.edgeAt (merge.keyAt side near relationType far) =
      absorb merge.canonicalId merge.dupeId
        (fun near relationType far => store.edgeAt (merge.keyAt side near relationType far))
        near relationType far := by
  rw [repointed.edgeAt, sideEdge, absorb]
  simp only [isDupes_keyAt_iff, isCanonicals_keyAt_iff]
  by_cases isDupe : near = merge.dupeId
  · rw [if_pos isDupe, if_pos (.inl isDupe)]
  · by_cases isCanonical : near = merge.canonicalId
    · subst isCanonical
      by_cases isLoop : far = merge.canonicalId
      · subst isLoop
        simp [isDupe]
      · simp [isLoop]
    · simp [isCanonical, block_of_ne isCanonical]

end Merge

end Caura.EntityGraph
