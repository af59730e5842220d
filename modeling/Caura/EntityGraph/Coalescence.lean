import Caura.EntityGraph.Grouping

/-!
# Which names meet in one entity

The state that matters to a run is the tenant's entities without their attributes: a merge
removes one of them and changes no other.  Along the runs, an entity survives in one with
the same identifiers and, where its qualifier could be contested, with the same qualifier.
One merge keeps this as long as the name that survives it carries the qualifier.
-/

namespace Caura.EntityGraph

open List Function Caura.Relation.Table

open Caura.Relation (Table)
open Caura.Value Caura.Partition
open Caura.Crystallizer (SetOrder pairMemberIds foldl_collect_snd)

variable {tenantId : String} {store after : Store} {entity first second : Entity}

theorem mem_tenantEntities_iff : entity ∈ store.tenantEntities tenantId ↔
    (∃ stored ∈ store.entities, stored.bare = entity) ∧ entity.tenantId = tenantId := by
  simp [Store.tenantEntities, mem_def]

theorem bare_mem_tenantEntities (stored : entity ∈ store.entities)
    (ofTenant : entity.tenantId = tenantId) : entity.bare ∈ store.tenantEntities tenantId :=
  mem_tenantEntities_iff.mpr ⟨⟨entity, stored, rfl⟩, ofTenant⟩

theorem eq_of_mem_tenantEntities (firstMem : first ∈ store.tenantEntities tenantId)
    (secondMem : second ∈ store.tenantEntities tenantId) (same : first.id = second.id) :
    first = second := by
  obtain ⟨⟨firstRow, firstStored, rfl⟩, _⟩ := mem_tenantEntities_iff.mp firstMem
  obtain ⟨⟨secondRow, secondStored, rfl⟩, _⟩ := mem_tenantEntities_iff.mp secondMem
  exact congrArg Entity.bare (eq_of_key_eq firstStored secondStored same)

theorem mem_tenantEntities_merge {merge : Merge} (apart : merge.dupeId ≠ merge.canonicalId)
    (merged : merge.entityMergeDupeIntoCanonical store = some after) :
    entity ∈ after.tenantEntities tenantId ↔
      entity ∈ store.tenantEntities tenantId ∧ entity.id ≠ merge.dupeId := by
  obtain ⟨_, accepted, ran⟩ := merge.exists_ran apart store
  cases Option.some.inj (accepted.symm.trans merged)
  rw [ran.tenantEntities, mem_filter, decide_eq_true_iff]

/-! ## The canonical entity -/

section Preference

variable {hasIdentifierOrQualifier : String → Bool} {third : Entity}

theorem isPreferred_trans (firstWins : isPreferred hasIdentifierOrQualifier first second = true)
    (secondWins : isPreferred hasIdentifierOrQualifier second third = true) :
    isPreferred hasIdentifierOrQualifier first third = true := by
  unfold isPreferred at *
  grind

theorem isPreferred_of_not (apart : first.id ≠ second.id)
    (notFirst : isPreferred hasIdentifierOrQualifier first second = false) :
    isPreferred hasIdentifierOrQualifier second first = true := by
  unfold isPreferred at *
  have : first.id.value ≠ second.id.value := fun same => apart (Uuid.ext_value same)
  grind

theorem isPreferred_self : isPreferred hasIdentifierOrQualifier first first = false := by
  simp [isPreferred]

/-- What is not preferred to the best so far, or comes later, is not preferred to the
best of all. -/
theorem not_isPreferred_foldl (entities : List Entity) (start : Entity) {other : Entity}
    (seen : isPreferred hasIdentifierOrQualifier other start = false ∨ other ∈ entities) :
    isPreferred hasIdentifierOrQualifier other (entities.foldl (fun best next =>
      if isPreferred hasIdentifierOrQualifier next best then next else best) start) = false := by
  induction entities generalizing start with
  | nil => exact seen.resolve_right not_mem_nil
  | cons next entities ih =>
    apply ih
    rw [mem_cons] at seen
    rcases seen with notBetter | rfl | later
    · left
      dsimp only
      split
      next nextWins =>
        by_contra otherWins
        rw [Bool.not_eq_false] at otherWins
        rw [isPreferred_trans otherWins nextWins] at notBetter
        cases notBetter
      · exact notBetter
    · left
      dsimp only
      split
      · exact isPreferred_self
      next notBetter => exact Bool.eq_false_iff.mpr notBetter
    · exact .inr later

/-- No entity is preferred to the chosen one. -/
theorem not_isPreferred_chooseCanonical {entities : List Entity} {canonical entity : Entity}
    (chosen : chooseCanonical hasIdentifierOrQualifier entities = some canonical)
    (entityMem : entity ∈ entities) :
    isPreferred hasIdentifierOrQualifier entity canonical = false := by
  cases entities with
  | nil => cases chosen
  | cons start entities =>
    cases chosen
    apply not_isPreferred_foldl
    rcases mem_cons.mp entityMem with rfl | later
    · exact .inl isPreferred_self
    · exact .inr later

end Preference

/-! ## Survivors -/

theorem survivor_append (earlier later : List (Uuid × Uuid)) (entityId : Uuid) :
    survivor (earlier ++ later) entityId = survivor later (survivor earlier entityId) :=
  foldl_append

section Invariant

variable (text : TextRules) (tenantId : String)

/-- A qualified name of which another has the identifiers with a different qualifier. -/
def Contested (entities : List Entity) (entity : Entity) : Prop :=
  text.qualifierSignature entity.canonicalName ≠ ∅ ∧
    ∃ other ∈ entities,
      text.identifierTokens other.canonicalName = text.identifierTokens entity.canonicalName ∧
      text.qualifierSignature other.canonicalName ≠ ∅ ∧
      text.qualifierSignature other.canonicalName ≠ text.qualifierSignature entity.canonicalName

/-- A contested name is preferred to every name without a qualifier that has its
identifiers. -/
def NamesKept (entities : List Entity) : Prop :=
  ∀ bare ∈ entities, ∀ qualified ∈ entities,
    text.identifierTokens bare.canonicalName = text.identifierTokens qualified.canonicalName →
    text.qualifierSignature bare.canonicalName = ∅ → Contested text entities qualified →
      isPreferred text.hasIdentifierOrQualifier qualified bare = true

/-- An entity survives in one with its identifiers and, if contested, its qualifier. -/
structure SurvivesIn (entities : List Entity) (entity surviving : Entity) : Prop where
  identifiers : text.identifierTokens surviving.canonicalName =
    text.identifierTokens entity.canonicalName
  qualifier : Contested text entities entity →
    text.qualifierSignature surviving.canonicalName = text.qualifierSignature entity.canonicalName

/-- What holds after some merges, the entities having been `original`. -/
structure Sound (original : Store) (store : Store) (merges : List (Uuid × Uuid)) : Prop where
  unchanged : ∀ entity ∈ store.tenantEntities tenantId,
    entity ∈ original.tenantEntities tenantId
  survives : ∀ entity ∈ original.tenantEntities tenantId,
    ∃ surviving ∈ store.tenantEntities tenantId,
      surviving.id = survivor merges entity.id ∧
        SurvivesIn text (original.tenantEntities tenantId) entity surviving

end Invariant

variable {text : TextRules} {canonical dupe : Entity}

section Steps

variable {original : Store} {merges : List (Uuid × Uuid)}

theorem sound_start : Sound text tenantId store store [] where
  unchanged := fun _ entityMem => entityMem
  survives := fun entity entityMem => ⟨entity, entityMem, rfl, rfl, fun _ => rfl⟩

variable {entities dupes : List Entity}

/-- The ids belong to entities with compatible names. -/
def Compatible (text : TextRules) (entities : List Entity) (ids : List Uuid) : Prop :=
  ∀ first ∈ entities, ∀ second ∈ entities, first.id ∈ ids → second.id ∈ ids →
    text.sameIdentifierSignature first.canonicalName second.canonicalName = true

variable {clusterIds : List Uuid}

variable {earlier similar pairs : List (Uuid × Uuid)}

/-! ## The groups of a run -/

variable {id entityId : Uuid}

theorem names_eq {rows : List PairRow} {name : Uuid → String}
    (named : ∀ row ∈ rows, row.nameA = name row.idA ∧ row.nameB = name row.idB)
    (listed : ∃ row ∈ rows, id = row.idA ∨ id = row.idB) : names rows id = name id := by
  induction rows using List.reverseRecOn with
  | nil =>
    obtain ⟨row, rowMem, _⟩ := listed
    cases rowMem
  | append_singleton rows last ih =>
    obtain ⟨nameA, nameB⟩ := named last (by simp)
    unfold names
    rw [foldl_append, foldl_cons, foldl_nil]
    by_cases isB : id = last.idB
    · subst isB
      rw [update_self, nameB]
    · rw [update_of_ne isB]
      by_cases isA : id = last.idA
      · subst isA
        rw [update_self, nameA]
      · rw [update_of_ne isA]
        refine ih (fun row rowMem => named row (mem_append_left _ rowMem)) ?_
        obtain ⟨row, rowMem, isOf⟩ := listed
        rcases mem_append.mp rowMem with earlier | isLast
        · exact ⟨row, earlier, isOf⟩
        · rw [mem_singleton] at isLast
          subst isLast
          exact absurd isOf (not_or.mpr ⟨isA, isB⟩)

/-- The name of an entity. -/
def nameOf (store : Store) (entityId : Uuid) : String :=
  ((store.entities.lookup entityId).map Entity.canonicalName).getD ""

theorem nameOf_of_mem (entityMem : entity ∈ store.tenantEntities tenantId) :
    nameOf store entity.id = entity.canonicalName := by
  obtain ⟨⟨stored, storedMem, rfl⟩, _⟩ := mem_tenantEntities_iff.mp entityMem
  have found : store.entities.lookup stored.bare.id = some stored := lookup_key storedMem
  rw [nameOf, found]
  rfl

theorem tenantEntity_eq_some_iff : store.tenantEntity tenantId entityId = some entity ↔
      entity ∈ store.entities ∧ entity.id = entityId ∧ entity.tenantId = tenantId := by
  simp [Store.tenantEntity, Table.lookup_eq_some_iff, and_assoc]

theorem mem_of_mem_entityClusters {order : SetOrder} {cluster : List Uuid}
    (clusterMem : cluster ∈ entityClusters order pairs) (idMem : id ∈ cluster) :
    ∃ pair ∈ pairs, id = pair.1 ∨ id = pair.2 := by
  have paired := (classes_entityClusters order pairs).cover.mem_iff.mp
    (mem_flatten.mpr ⟨cluster, clusterMem, idMem⟩)
  simpa [pairMemberIds] using paired

/-- What survives in a duplicate survives in the canonical, which is preferred to it. -/
theorem SurvivesIn.merge (kept : NamesKept text entities) (canonicalMem : canonical ∈ entities)
    (dupeMem : dupe ∈ entities)
    (compatible : text.sameIdentifierSignature dupe.canonicalName canonical.canonicalName = true)
    (notPreferred : isPreferred text.hasIdentifierOrQualifier dupe canonical = false)
    (survives : SurvivesIn text entities entity dupe) :
    SurvivesIn text entities entity canonical := by
  obtain ⟨sameIdentifiers, qualifiers⟩ := text.sameIdentifierSignature_iff.mp compatible
  refine ⟨sameIdentifiers.symm.trans survives.identifiers, fun contested => ?_⟩
  have sameQualifier := survives.qualifier contested
  rcases qualifiers with dupeBare | canonicalBare | same
  · exact absurd (sameQualifier.symm.trans dupeBare) contested.1
  · obtain ⟨qualified, other, otherMem, identifiers, otherQualified, differs⟩ := contested
    have dupeContested : Contested text entities dupe :=
      ⟨sameQualifier ▸ qualified, other, otherMem, identifiers.trans survives.identifiers.symm,
        otherQualified, sameQualifier ▸ differs⟩
    have preferred := kept canonical canonicalMem dupe dupeMem sameIdentifiers.symm
      canonicalBare dupeContested
    rw [preferred] at notPreferred
    cases notPreferred
  · exact same.symm.trans sameQualifier

section

variable (sound : Sound text tenantId original store merges)

include sound

/-- The rows carry the names that the entities have had from the beginning. -/
theorem Sound.named {row : PairRow} (rowMem : row ∈ pairRows tenantId similar store) :
    row.nameA = nameOf original row.idA ∧ row.nameB = nameOf original row.idB := by
  have named : ∀ {entityId : Uuid} {entity : Entity},
      store.tenantEntity tenantId entityId = some entity →
        entity.canonicalName = nameOf original entity.id := by
    intro entityId entity found
    obtain ⟨stored, _, ofTenant⟩ := tenantEntity_eq_some_iff.mp found
    exact (nameOf_of_mem (sound.unchanged _ (bare_mem_tenantEntities stored ofTenant))).symm
  obtain ⟨pair, _, built⟩ := mem_filterMap.mp rowMem
  simp only [pairRow, Option.bind_eq_bind, Option.bind_eq_some_iff] at built
  obtain ⟨first, firstFound, second, secondFound, built⟩ := built
  split at built <;> cases built
  · exact ⟨named firstFound, named secondFound⟩

/-- The names of a group are compatible. -/
theorem Sound.compatible {run : Run} (groupMem : clusterIds ∈ resolutionGroups text run.order
      (pairRows tenantId run.similar store)) :
    Compatible text (original.tenantEntities tenantId) clusterIds := by
  obtain ⟨cluster, clusterMem, groupMem⟩ := mem_flatMap.mp groupMem
  intro first firstMem second secondMem firstIn secondIn
  have named : ∀ id ∈ clusterIds, names (pairRows tenantId run.similar store) id =
      nameOf original id := by
    intro id idMem
    apply names_eq fun row rowMem => sound.named rowMem
    have inCluster := (flatten_entityCompatibleGroups text _ cluster).mem_iff.mp
      (mem_flatten.mpr ⟨_, groupMem, idMem⟩)
    obtain ⟨pair, pairMem, isOf⟩ := mem_of_mem_entityClusters clusterMem inCluster
    obtain ⟨row, rowMem, rfl⟩ := mem_map.mp pairMem
    exact ⟨row, mem_of_mem_filter rowMem, isOf⟩
  rw [← nameOf_of_mem firstMem, ← nameOf_of_mem secondMem, ← named _ firstIn, ← named _ secondIn]
  exact compatible_of_mem_entityCompatibleGroups groupMem firstIn secondIn

/-- Entities with one survivor have compatible names. -/
theorem Sound.compatible_of_survivor_eq (firstMem : first ∈ original.tenantEntities tenantId)
    (secondMem : second ∈ original.tenantEntities tenantId)
    (same : survivor merges first.id = survivor merges second.id) :
    text.sameIdentifierSignature first.canonicalName second.canonicalName = true := by
  obtain ⟨surviving, survivingMem, isFirst, survivesFirst⟩ := sound.survives first firstMem
  obtain ⟨other, otherMem, isSecond, survivesSecond⟩ := sound.survives second secondMem
  cases eq_of_mem_tenantEntities survivingMem otherMem (isFirst.trans (same.trans isSecond.symm))
  have identifiers := survivesFirst.identifiers.symm.trans survivesSecond.identifiers
  refine text.sameIdentifierSignature_iff.mpr ⟨identifiers, ?_⟩
  by_cases firstBare : text.qualifierSignature first.canonicalName = ∅
  · exact .inl firstBare
  by_cases secondBare : text.qualifierSignature second.canonicalName = ∅
  · exact .inr (.inl secondBare)
  by_contra conflict
  have differ : text.qualifierSignature first.canonicalName ≠
      text.qualifierSignature second.canonicalName := fun same => conflict (.inr (.inr same))
  apply differ
  rw [← survivesFirst.qualifier ⟨firstBare, second, secondMem, identifiers.symm, secondBare,
      differ.symm⟩, survivesSecond.qualifier ⟨secondBare, first, firstMem, identifiers,
      firstBare, differ⟩]

variable (kept : NamesKept text (original.tenantEntities tenantId))

include kept

/-- One merge of a duplicate into a canonical that is preferred to it. -/
theorem Sound.merge (canonicalMem : canonical ∈ store.tenantEntities tenantId)
    (dupeMem : dupe ∈ store.tenantEntities tenantId) (apart : dupe.id ≠ canonical.id)
    (compatible : text.sameIdentifierSignature dupe.canonicalName canonical.canonicalName = true)
    (notPreferred : isPreferred text.hasIdentifierOrQualifier dupe canonical = false)
    (merged : Merge.entityMergeDupeIntoCanonical
      { tenantId, canonicalId := canonical.id, dupeId := dupe.id } store = some after) :
    Sound text tenantId original after (merges ++ [(dupe.id, canonical.id)]) := by
  constructor
  · intro entity entityMem
    exact sound.unchanged entity ((mem_tenantEntities_merge apart merged).mp entityMem).1
  · intro entity entityMem
    obtain ⟨surviving, survivingMem, isSurvivor, survives⟩ := sound.survives entity entityMem
    rw [survivor_append, ← isSurvivor]
    by_cases isDupe : surviving.id = dupe.id
    · cases eq_of_mem_tenantEntities survivingMem dupeMem isDupe
      refine ⟨canonical, (mem_tenantEntities_merge apart merged).mpr ⟨canonicalMem, apart.symm⟩,
        (if_pos rfl).symm, ?_⟩
      exact survives.merge kept (sound.unchanged _ canonicalMem) (sound.unchanged _ dupeMem)
        compatible notPreferred
    · exact ⟨surviving, (mem_tenantEntities_merge apart merged).mpr ⟨survivingMem, isDupe⟩,
        (if_neg isDupe).symm, survives⟩

/-- The merges of a group, as far as they go. -/
theorem Sound.mergeUntilFailure (mergeFails : Uuid → Bool) (nodup : (dupes.map Entity.id).Nodup)
    (canonicalMem : canonical ∈ store.tenantEntities tenantId)
    (dupesMem : ∀ dupe ∈ dupes, dupe ∈ store.tenantEntities tenantId ∧ dupe.id ≠ canonical.id ∧
      text.sameIdentifierSignature dupe.canonicalName canonical.canonicalName = true ∧
      isPreferred text.hasIdentifierOrQualifier dupe canonical = false) :
    Sound text tenantId original
      (EntityGraph.mergeUntilFailure tenantId mergeFails canonical.id (dupes.map Entity.id) store).1
      (merges ++ (EntityGraph.mergeUntilFailure tenantId mergeFails canonical.id
        (dupes.map Entity.id) store).2.1) := by
  induction dupes generalizing store merges with
  | nil =>
    simp only [map_nil, EntityGraph.mergeUntilFailure, append_nil]
    exact sound
  | cons dupe dupes ih =>
    obtain ⟨dupeMem, apart, compatible, notPreferred⟩ := dupesMem dupe (.head _)
    rw [map_cons, nodup_cons] at nodup
    rw [map_cons, EntityGraph.mergeUntilFailure]
    dsimp only
    split
    · rwa [append_nil]
    next merged attempt =>
      have accepted : Merge.entityMergeDupeIntoCanonical
          { tenantId, canonicalId := canonical.id, dupeId := dupe.id } store = some merged := by
        split at attempt
        · cases attempt
        · exact attempt
      have step := sound.merge kept canonicalMem dupeMem apart compatible notPreferred accepted
      rw [← singleton_append, ← append_assoc]
      refine ih step nodup.2 ((mem_tenantEntities_merge apart accepted).mpr
        ⟨canonicalMem, apart.symm⟩) fun later laterMem => ?_
      obtain ⟨laterStored, facts⟩ := dupesMem later (.tail dupe laterMem)
      refine ⟨(mem_tenantEntities_merge apart accepted).mpr ⟨laterStored, ?_⟩, facts⟩
      exact fun same : later.id = dupe.id => nodup.1 (same ▸ mem_map_of_mem laterMem)

/-- The merge of a group with compatible names. -/
theorem Sound.entityMergeCluster (run : Run)
    (compatible : Compatible text (original.tenantEntities tenantId) clusterIds) :
    Sound text tenantId original
      (EntityGraph.entityMergeCluster text tenantId run clusterIds store).1
      (merges ++ (EntityGraph.entityMergeCluster text tenantId run clusterIds store).2.1) := by
  unfold EntityGraph.entityMergeCluster
  split
  · rwa [append_nil]
  · dsimp only
    split
    · rwa [append_nil]
    next canonical chosen =>
      have member : ∀ entity ∈ clusterEntities tenantId clusterIds store,
          entity.bare ∈ store.tenantEntities tenantId ∧ entity.id ∈ clusterIds := by
        intro entity entityMem
        obtain ⟨stored, inCluster, ofTenant⟩ := mem_clusterEntities_iff.mp entityMem
        exact ⟨bare_mem_tenantEntities stored ofTenant, inCluster⟩
      obtain ⟨canonicalMem, canonicalIn⟩ := member canonical (chooseCanonical_mem chosen)
      have dupesEq : dupesOf (clusterEntities tenantId clusterIds store) canonical =
          (((clusterEntities tenantId clusterIds store).filter fun entity =>
            entity.id != canonical.id).map Entity.bare).map Entity.id := by
        rw [map_map]
        rfl
      have nodup : (dupesOf (clusterEntities tenantId clusterIds store) canonical).Nodup :=
        nodup_dupesOf_clusterEntities
      rw [dupesEq] at nodup ⊢
      have merged := sound.mergeUntilFailure kept run.mergeFails nodup canonicalMem
      refine merged fun dupe dupeMem => ?_
      obtain ⟨entity, entityMem, rfl⟩ := mem_map.mp dupeMem
      obtain ⟨inGroup, other⟩ := mem_filter.mp entityMem
      obtain ⟨stored, inCluster⟩ := member entity inGroup
      have notPreferred := not_isPreferred_chooseCanonical chosen inGroup
      refine ⟨stored, bne_iff_ne.mp other, ?_, notPreferred⟩
      exact compatible _ (sound.unchanged _ stored) _ (sound.unchanged _ canonicalMem)
        inCluster canonicalIn

omit sound in
/-- One round of the loop over the groups. -/
theorem Sound.processGroup {progress : Progress}
    (sound : Sound text tenantId original progress.store (earlier ++ progress.merges)) (run : Run)
    (compatible : Compatible text (original.tenantEntities tenantId) clusterIds) :
    Sound text tenantId original
      (EntityGraph.processGroup text tenantId run progress clusterIds).store
      (earlier ++ (EntityGraph.processGroup text tenantId run progress clusterIds).merges) := by
  unfold EntityGraph.processGroup
  split
  · exact sound
  · rw [← append_assoc]
    exact sound.entityMergeCluster kept run compatible

/-- A run keeps what holds after the merges before it. -/
theorem Sound.resolve (run : Run) :
    Sound text tenantId original (entityResolveDuplicates text tenantId run store).1.store
      (merges ++ (entityResolveDuplicates text tenantId run store).1.merges) := by
  have start : Sound text tenantId original ({ store : Progress }).store
      (merges ++ ({ store : Progress }).merges) := by
    rwa [append_nil]
  have loop := List.foldlRecOn (motive := fun progress : Progress =>
      Sound text tenantId original progress.store (merges ++ progress.merges))
    (resolutionGroups text run.order (pairRows tenantId run.similar store))
    (EntityGraph.processGroup text tenantId run) start
    fun _ sound' group groupMem => sound'.processGroup kept run (sound.compatible groupMem)
  unfold entityResolveDuplicates
  dsimp only
  split
  · exact start
  · split <;> exact loop

omit sound in
theorem sound_resolveRuns (runs : List Run) :
    Sound text tenantId original (resolveRuns text tenantId runs original).1
      (resolveRuns text tenantId runs original).2 :=
  List.foldlRecOn (motive := fun state : Store × List (Uuid × Uuid) =>
      Sound text tenantId original state.1 state.2) runs _ sound_start
    fun _ sound run _ => sound.resolve kept run

end

end Steps

/-! ## A run on one pair -/

section Pair

variable {first second : Uuid} {order : SetOrder}

theorem entityClusters_pair (inOrder : order.arrange = id) (apart : first ≠ second) :
    entityClusters order [(first, second)] = [[first, second]] := by
  have ids : pairMemberIds [(first, second)] = [first, second] := by
    simp [pairMemberIds, apart]
  have sameRoot := (Forest.unites_unionByRank Forest.singletons (fun _ => 0) first second
    first second).mpr (.inr (.inl ⟨rfl, rfl⟩))
  rw [entityClusters, inOrder, ids, foldl_collect_snd]
  simp [addTo, sameRoot]

theorem entityCompatibleGroups_pair {names : Uuid → String}
    (compatible : text.sameIdentifierSignature (names first) (names second) = true) :
    ∃ group, entityCompatibleGroups text [first, second] names = [group] ∧
      group.Perm [first, second] := by
  have swapped := text.sameIdentifierSignature_symm compatible
  by_cases inOrder : longerFirst names first second
  · refine ⟨[first, second], ?_, List.Perm.refl _⟩
    simp [entityCompatibleGroups, inOrder, joinFirst, swapped]
  · refine ⟨[second, first], ?_, List.Perm.swap ..⟩
    simp [entityCompatibleGroups, inOrder, joinFirst, compatible]

theorem resolutionGroups_pair (inOrder : order.arrange = id) {row : PairRow}
    (apart : row.idA ≠ row.idB)
    (compatible : text.sameIdentifierSignature row.nameA row.nameB = true) :
    ∃ group, resolutionGroups text order [row] = [group] ∧ group.Perm [row.idA, row.idB] := by
  have nameA : names [row] row.idA = row.nameA := by simp [names, apart]
  have nameB : names [row] row.idB = row.nameB := by simp [names]
  have kept : compatibleRows text [row] = [row] := by simp [compatibleRows, compatible]
  rw [← nameA, ← nameB] at compatible
  obtain ⟨group, groupEq, perm⟩ := entityCompatibleGroups_pair compatible
  refine ⟨group, ?_, perm⟩
  rw [resolutionGroups, kept, map_singleton, entityClusters_pair inOrder apart,
    flatMap_singleton, groupEq]

/-- Of a pair that is listed both ways, the row has the ids in order. -/
theorem pairRows_of_lt {first second : Entity}
    (firstFound : store.tenantEntity tenantId first.id = some first)
    (secondFound : store.tenantEntity tenantId second.id = some second)
    (less : first.id < second.id) {similar : List (Uuid × Uuid)}
    (isPair : similar = [(first.id, second.id), (second.id, first.id)] ∨
      similar = [(second.id, first.id), (first.id, second.id)]) :
    pairRows tenantId similar store =
      [⟨first.id, second.id, first.canonicalName, second.canonicalName⟩] := by
  have notLess : ¬ second.id < first.id := Nat.lt_asymm less
  rcases isPair with rfl | rfl <;> simp [pairRows, pairRow, firstFound, secondFound, less, notLess]

/-- Two entities of the tenant with compatible names, of which the first is preferred. -/
structure Mergeable (text : TextRules) (tenantId : String) (store : Store)
    (canonical dupe : Entity) : Prop where
  canonicalMem : canonical ∈ store.entities
  dupeMem : dupe ∈ store.entities
  canonicalTenant : canonical.tenantId = tenantId
  dupeTenant : dupe.tenantId = tenantId
  compatible : text.sameIdentifierSignature dupe.canonicalName canonical.canonicalName = true
  preferred : isPreferred text.hasIdentifierOrQualifier canonical dupe = true

namespace Mergeable

variable (mergeable : Mergeable text tenantId store canonical dupe)

include mergeable

theorem apart : dupe.id ≠ canonical.id := by
  intro same
  cases eq_of_key_eq mergeable.dupeMem mergeable.canonicalMem same
  have preferred := mergeable.preferred
  rw [isPreferred_self] at preferred
  cases preferred

variable {group : List Uuid}

section

variable (perm : group.Perm [canonical.id, dupe.id])

include perm

theorem clusterEntities_perm : (clusterEntities tenantId group store).Perm [canonical, dupe] := by
  have nodup : (clusterEntities tenantId group store).Nodup := by
    apply (perm_insertionSort _ _).nodup_iff.mpr
    exact (store.entities.nodup.of_map _).filter _
  have pairNodup : [canonical, dupe].Nodup := by
    simpa using fun same : canonical = dupe => mergeable.apart (same ▸ rfl)
  refine (perm_ext_iff_of_nodup nodup pairNodup).mpr fun entity => ?_
  rw [mem_clusterEntities_iff, perm.mem_iff]
  simp only [mem_cons, not_mem_nil, or_false]
  constructor
  · rintro ⟨stored, isCanonical | isDupe, _⟩
    · exact .inl (eq_of_key_eq stored mergeable.canonicalMem isCanonical)
    · exact .inr (eq_of_key_eq stored mergeable.dupeMem isDupe)
  · rintro (rfl | rfl)
    · exact ⟨mergeable.canonicalMem, .inl rfl, mergeable.canonicalTenant⟩
    · exact ⟨mergeable.dupeMem, .inr rfl, mergeable.dupeTenant⟩

theorem chooseCanonical_eq :
    chooseCanonical text.hasIdentifierOrQualifier (clusterEntities tenantId group store) =
      some canonical := by
  have members := mergeable.clusterEntities_perm perm
  cases chosen : chooseCanonical text.hasIdentifierOrQualifier
      (clusterEntities tenantId group store) with
  | none =>
    rw [chooseCanonical_eq_none chosen] at members
    exact absurd members.length_eq (by simp)
  | some entity =>
    have entityMem := members.mem_iff.mp (chooseCanonical_mem chosen)
    simp only [mem_cons, not_mem_nil, or_false] at entityMem
    rcases entityMem with rfl | rfl
    · rfl
    · have beaten := not_isPreferred_chooseCanonical chosen (members.mem_iff.mpr (.head _))
      rw [mergeable.preferred] at beaten
      cases beaten

theorem dupesOf_eq : dupesOf (clusterEntities tenantId group store) canonical = [dupe.id] := by
  have others := (mergeable.clusterEntities_perm perm).filter fun entity =>
    entity.id != canonical.id
  have isOther : (dupe.id != canonical.id) = true := bne_iff_ne.mpr mergeable.apart
  rw [filter_cons_of_neg (by simp), filter_cons_of_pos (by exact isOther)] at others
  exact congrArg (List.map Entity.id) (perm_singleton.mp others)

theorem exists_entityMergeCluster :
    ∃ after, entityMergeCluster text tenantId (pairRun canonical.id dupe.id) group store =
        (after, [(dupe.id, canonical.id)], false) ∧
      after.tenantEntities tenantId =
        (store.tenantEntities tenantId).filter fun entity => entity.id ≠ dupe.id := by
  obtain ⟨after, merged, ran⟩ := Merge.exists_ran
    { tenantId, canonicalId := canonical.id, dupeId := dupe.id } mergeable.apart store
  refine ⟨after, ?_, ran.tenantEntities⟩
  simp [entityMergeCluster, pairRun, mergeable.chooseCanonical_eq perm, mergeable.dupesOf_eq perm,
    mergeUntilFailure, merged]

end

theorem exists_pairRow : ∃ row,
    pairRows tenantId (pairRun canonical.id dupe.id).similar store = [row] ∧
      [row.idA, row.idB].Perm [canonical.id, dupe.id] ∧
      text.sameIdentifierSignature row.nameA row.nameB = true := by
  have canonicalFound : store.tenantEntity tenantId canonical.id = some canonical :=
    tenantEntity_eq_some_iff.mpr ⟨mergeable.canonicalMem, rfl, mergeable.canonicalTenant⟩
  have dupeFound : store.tenantEntity tenantId dupe.id = some dupe :=
    tenantEntity_eq_some_iff.mpr ⟨mergeable.dupeMem, rfl, mergeable.dupeTenant⟩
  have differ : dupe.id.value ≠ canonical.id.value :=
    fun same => mergeable.apart (Uuid.ext_value same)
  rcases Nat.lt_or_gt_of_ne differ with dupeFirst | canonicalFirst
  · exact ⟨_, pairRows_of_lt dupeFound canonicalFound dupeFirst (.inr rfl),
      List.Perm.swap .., mergeable.compatible⟩
  · exact ⟨_, pairRows_of_lt canonicalFound dupeFound canonicalFirst (.inl rfl),
      List.Perm.refl _, text.sameIdentifierSignature_symm mergeable.compatible⟩

/-- The run on the pair merges the second entity into the first. -/
theorem resolve_pair :
    (entityResolveDuplicates text tenantId (pairRun canonical.id dupe.id) store).1.merges =
        [(dupe.id, canonical.id)] ∧
      Store.tenantEntities (entityResolveDuplicates text tenantId
          (pairRun canonical.id dupe.id) store).1.store tenantId =
        (store.tenantEntities tenantId).filter fun entity => entity.id ≠ dupe.id := by
  obtain ⟨row, rows, ids, compatible⟩ := mergeable.exists_pairRow
  have apart : row.idA ≠ row.idB := by
    have nodup := ids.nodup_iff.mpr (by simpa using mergeable.apart.symm)
    simpa using nodup
  have inOrder : (pairRun canonical.id dupe.id).order.arrange = id := rfl
  obtain ⟨group, groups, perm⟩ := resolutionGroups_pair inOrder apart compatible
  obtain ⟨after, merged, entities⟩ := mergeable.exists_entityMergeCluster (perm.trans ids)
  have two : ¬ group.length < 2 := by
    rw [perm.length_eq]
    exact Nat.lt_irrefl 2
  simp [entityResolveDuplicates, rows, compatibleRows, compatible, groups, processGroup, two,
    merged, entities]

end Mergeable

end Pair

/-! ## The condition -/

section Condition

variable {bare qualified other : Entity}

section

variable (firstMem : bare ∈ store.tenantEntities tenantId)
  (secondMem : other ∈ store.tenantEntities tenantId)

include firstMem secondMem

/-- A run on a pair of compatible names merges one into the other that is preferred. -/
theorem resolve_of_preferred
    (compatible : text.sameIdentifierSignature other.canonicalName bare.canonicalName = true)
    (preferred : isPreferred text.hasIdentifierOrQualifier bare other = true) :
    (entityResolveDuplicates text tenantId (pairRun bare.id other.id) store).1.merges =
        [(other.id, bare.id)] ∧
      Store.tenantEntities
          (entityResolveDuplicates text tenantId (pairRun bare.id other.id) store).1.store
          tenantId =
        (store.tenantEntities tenantId).filter fun entity => entity.id ≠ other.id := by
  obtain ⟨⟨canonical, canonicalMem, rfl⟩, canonicalTenant⟩ := mem_tenantEntities_iff.mp firstMem
  obtain ⟨⟨dupe, dupeMem, rfl⟩, dupeTenant⟩ := mem_tenantEntities_iff.mp secondMem
  have mergeable : Mergeable text tenantId store canonical dupe :=
    ⟨canonicalMem, dupeMem, canonicalTenant, dupeTenant, compatible, preferred⟩
  exact mergeable.resolve_pair

/-- The run on a pair of compatible names merges one of them into the other. -/
theorem exists_merge_of_pair (apart : bare.id ≠ other.id)
    (compatible : text.sameIdentifierSignature other.canonicalName bare.canonicalName = true) :
    ∃ run, (entityResolveDuplicates text tenantId run store).1.merges = [(other.id, bare.id)] ∨
      (entityResolveDuplicates text tenantId run store).1.merges = [(bare.id, other.id)] := by
  by_cases preferred : isPreferred text.hasIdentifierOrQualifier bare other = true
  · exact ⟨_, .inl (resolve_of_preferred firstMem secondMem compatible preferred).1⟩
  · have swapped := isPreferred_of_not apart (Bool.eq_false_iff.mpr preferred)
    exact ⟨_, .inr (resolve_of_preferred secondMem firstMem
      (text.sameIdentifierSignature_symm compatible) swapped).1⟩

end

theorem resolveRuns_pair (first second : Run) :
    (resolveRuns text tenantId [first, second] store).2 =
      (entityResolveDuplicates text tenantId first store).1.merges ++
        (entityResolveDuplicates text tenantId second
          (entityResolveDuplicates text tenantId first store).1.store).1.merges :=
  rfl

/-- A name without a qualifier that is preferred to a contested one takes in two names
that conflict: the contested one first, then the other. -/
theorem exists_coalescing_runs (bareMem : bare ∈ store.tenantEntities tenantId)
    (qualifiedMem : qualified ∈ store.tenantEntities tenantId)
    (identifiers : text.identifierTokens bare.canonicalName =
      text.identifierTokens qualified.canonicalName)
    (isBare : text.qualifierSignature bare.canonicalName = ∅)
    (contested : Contested text (store.tenantEntities tenantId) qualified)
    (notPreferred : isPreferred text.hasIdentifierOrQualifier qualified bare = false) :
    ∃ runs, ∃ other ∈ store.tenantEntities tenantId,
      text.sameIdentifierSignature qualified.canonicalName other.canonicalName = false ∧
      survivor (resolveRuns text tenantId runs store).2 qualified.id =
        survivor (resolveRuns text tenantId runs store).2 other.id := by
  obtain ⟨isQualified, other, otherMem, otherIdentifiers, otherQualified, differs⟩ := contested
  have qualifiedApart : qualified.id ≠ bare.id := by
    intro same
    cases eq_of_mem_tenantEntities qualifiedMem bareMem same
    exact isQualified isBare
  have otherApart : bare.id ≠ other.id := by
    intro same
    cases eq_of_mem_tenantEntities bareMem otherMem same
    exact otherQualified isBare
  have conflictApart : qualified.id ≠ other.id := by
    intro same
    cases eq_of_mem_tenantEntities qualifiedMem otherMem same
    exact differs rfl
  -- The first run merges the contested entity into the bare one.
  obtain ⟨merges, remaining⟩ := resolve_of_preferred bareMem qualifiedMem
    (text.sameIdentifierSignature_iff.mpr ⟨identifiers.symm, .inr (.inl isBare)⟩)
    (isPreferred_of_not qualifiedApart notPreferred)
  have stays : ∀ entity ∈ store.tenantEntities tenantId, entity.id ≠ qualified.id →
      entity ∈ Store.tenantEntities (entityResolveDuplicates text tenantId
        (pairRun bare.id qualified.id) store).1.store tenantId := by
    intro entity entityMem different
    rw [remaining, mem_filter, decide_eq_true_iff]
    exact ⟨entityMem, different⟩
  -- The second run merges the bare entity and the other one, in one direction or the other.
  obtain ⟨second, secondMerges⟩ := exists_merge_of_pair
    (stays bare bareMem qualifiedApart.symm) (stays other otherMem conflictApart.symm) otherApart
    (text.sameIdentifierSignature_iff.mpr
      ⟨otherIdentifiers.trans identifiers.symm, .inr (.inl isBare)⟩)
  refine ⟨[pairRun bare.id qualified.id, second], other, otherMem, ?_, ?_⟩
  · rw [Bool.eq_false_iff]
    intro compatible
    rcases (text.sameIdentifierSignature_iff.mp compatible).2 with none | none | same
    · exact isQualified none
    · exact otherQualified none
    · exact differs same.symm
  · rw [resolveRuns_pair, merges]
    rcases secondMerges with merged | merged <;>
      simp [merged, survivor, conflictApart.symm]

end Condition

/-- No sequence of runs merges entities with conflicting names exactly when every
contested name is preferred to the names without a qualifier that have its identifiers. -/
theorem conflicting_names_stay_apart_iff (text : TextRules) (tenantId : String) (store : Store) :
    (∀ runs, ∀ first ∈ store.tenantEntities tenantId, ∀ second ∈ store.tenantEntities tenantId,
        text.sameIdentifierSignature first.canonicalName second.canonicalName = false →
          survivor (resolveRuns text tenantId runs store).2 first.id ≠
            survivor (resolveRuns text tenantId runs store).2 second.id) ↔
      NamesKept text (store.tenantEntities tenantId) := by
  constructor
  · intro stayApart bare bareMem qualified qualifiedMem identifiers isBare contested
    by_contra notPreferred
    obtain ⟨runs, other, otherMem, conflict, together⟩ := exists_coalescing_runs bareMem
      qualifiedMem identifiers isBare contested (Bool.eq_false_iff.mpr notPreferred)
    exact stayApart runs qualified qualifiedMem other otherMem conflict together
  · intro kept runs first firstMem second secondMem conflict together
    have compatible :=
      (sound_resolveRuns kept runs).compatible_of_survivor_eq firstMem secondMem together
    rw [compatible] at conflict
    cases conflict

/-! ## A name that takes in two others -/

/-- A bare name and two that qualify it. -/
def bridgeEntities : List Entity :=
  [{ id := Uuid.ofNat 1, tenantId := "t", canonicalName := "acme 2", createdAt := 0 },
   { id := Uuid.ofNat 2, tenantId := "t", canonicalName := "acme 2 (ohio)", createdAt := 1 },
   { id := Uuid.ofNat 3, tenantId := "t", canonicalName := "acme 2 (delaware)", createdAt := 2 }]

/-- A graph of them alone. -/
def bridgeStore : Store where
  entities := ⟨bridgeEntities, by decide +kernel⟩
  memories := Table.empty
  links := Table.empty
  relations := Table.empty
  naturalKeys := nodup_nil
  evidence := ∅

/-- A run in which all three are similar. -/
def bridgeRun : Run :=
  { pairRun (Uuid.ofNat 1) (Uuid.ofNat 2) with
    similar := [(Uuid.ofNat 1, Uuid.ofNat 2), (Uuid.ofNat 1, Uuid.ofNat 3),
      (Uuid.ofNat 2, Uuid.ofNat 3)] }

/-- Two nights are enough: the first merges one qualified name into the oldest, which has
none, and the second the other one. -/
theorem bare_name_takes_in_both :
    TextRules.ascii.sameIdentifierSignature "acme 2 (ohio)" "acme 2 (delaware)" = false ∧
      survivor (resolveRuns TextRules.ascii "t" [bridgeRun, bridgeRun] bridgeStore).2
        (Uuid.ofNat 2) = Uuid.ofNat 1 ∧
      survivor (resolveRuns TextRules.ascii "t" [bridgeRun, bridgeRun] bridgeStore).2
        (Uuid.ofNat 3) = Uuid.ofNat 1 := by
  decide +kernel

end Caura.EntityGraph
