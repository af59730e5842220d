import Caura.Crystallizer.Clusters
import Caura.EntityGraph.Merge
import Caura.EntityGraph.Naming

/-!
# Nightly resolution of duplicates

A run of `entity_resolve_duplicates` finds pairs of similar names, drops those that may
not be merged, joins the others into clusters, cuts each cluster into groups of names
that are all compatible, and merges a group into one of its entities.  A group of which a
merge fails keeps the merges before it.

The entities of a group are compatible, but those of two runs meet only through the name
that survived the first.  So what two runs merge depends on which name survives: with the
names `acme 2`, `acme 2 (ohio)` and `acme 2 (delaware)` all three carry an identifier, the
oldest is kept, and once that is the bare one it takes in both qualified ones.  The
theorem states the exact condition on the entities under which no sequence of runs does so.

The entities are of one type and fleet, and the similar pairs of a run are arbitrary.
-/

namespace Caura.EntityGraph

open Caura.Relation (Table)
open Caura.Value Caura.Partition
open Caura.Crystallizer (SetOrder pairMemberIds collect)

/-! ## Pairs and clusters -/

/-- A row of the query for similar pairs. -/
structure PairRow where
  idA : Uuid
  idB : Uuid
  nameA : String
  nameB : String

/-- What a run meets: the pairs that are similar, in the order they are reported, the
order in which sets are iterated, and the statements that fail. -/
structure Run where
  similar : List (Uuid × Uuid)
  order : SetOrder
  loadFails : List Uuid → Bool
  mergeFails : Uuid → Bool

/-- An entity of the tenant. -/
def Store.tenantEntity (store : Store) (tenantId : String) (entityId : Uuid) : Option Entity :=
  (store.entities.lookup entityId).filter fun entity => entity.tenantId = tenantId

/-- The row of two entities of the tenant, the smaller id first. -/
def pairRow (tenantId : String) (store : Store) (pair : Uuid × Uuid) : Option PairRow := do
  let first ← store.tenantEntity tenantId pair.1
  let second ← store.tenantEntity tenantId pair.2
  if first.id < second.id then
    some { idA := first.id, idB := second.id
           nameA := first.canonicalName, nameB := second.canonicalName }
  else
    none

/-- The rows of the query. -/
def pairRows (tenantId : String) (similar : List (Uuid × Uuid)) (store : Store) : List PairRow :=
  similar.filterMap (pairRow tenantId store)

/-- The names of the entities in the rows. -/
def names (rows : List PairRow) : Uuid → String :=
  rows.foldl (fun names row =>
    Function.update (Function.update names row.idA row.nameA) row.idB row.nameB) fun _ => ""

/-- The ids of the pairs by their roots. -/
def entityClusters (order : SetOrder) (pairs : List (Uuid × Uuid)) : List (List Uuid) :=
  let united := pairs.foldl (fun state pair => Forest.unionByRank state pair.1 pair.2)
    (Forest.singletons, fun _ => 0)
  ((order.arrange (pairMemberIds pairs)).foldl collect (united.1, [])).2.map Prod.snd

/-- Longer names first, then by the texts of the ids, which is by their numbers. -/
def longerFirst (names : Uuid → String) (first second : Uuid) : Prop :=
  (names second).length < (names first).length ∨
    (names first).length = (names second).length ∧ first.value ≤ second.value

instance (names : Uuid → String) : DecidableRel (longerFirst names) :=
  fun _ _ => inferInstanceAs (Decidable (_ ∨ _))

/-- `_entity_compatible_groups`. -/
def entityCompatibleGroups (text : TextRules) (clusterIds : List Uuid) (names : Uuid → String) :
    List (List Uuid) :=
  (clusterIds.insertionSort (longerFirst names)).foldl
    (joinFirst fun id other => text.sameIdentifierSignature (names id) (names other)) []

/-! ## Runs -/

/-- Merge duplicates into the canonical until one fails: the store, the merges that were
made, each as the duplicate with its canonical, and whether one failed. -/
def mergeUntilFailure (tenantId : String) (mergeFails : Uuid → Bool) (canonicalId : Uuid) :
    List Uuid → Store → Store × List (Uuid × Uuid) × Bool
  | [], store => (store, [], false)
  | dupeId :: dupeIds, store =>
    let attempt := if mergeFails dupeId then none
      else Merge.entityMergeDupeIntoCanonical { tenantId, canonicalId, dupeId } store
    match attempt with
    | none => (store, [], true)
    | some merged =>
      let rest := mergeUntilFailure tenantId mergeFails canonicalId dupeIds merged
      (rest.1, (dupeId, canonicalId) :: rest.2.1, rest.2.2)

/-- `_entity_merge_cluster` with the statements that fail: an exception leaves the merges
before it in place. -/
def entityMergeCluster (text : TextRules) (tenantId : String) (run : Run) (clusterIds : List Uuid)
    (store : Store) : Store × List (Uuid × Uuid) × Bool :=
  if run.loadFails clusterIds then
    (store, [], true)
  else
    let entities := clusterEntities tenantId clusterIds store
    match chooseCanonical text.hasIdentifierOrQualifier entities with
    | none => (store, [], false)
    | some canonical =>
      mergeUntilFailure tenantId run.mergeFails canonical.id (dupesOf entities canonical) store

/-- The variables of the loop over the groups. -/
structure Progress where
  store : Store
  merges : List (Uuid × Uuid) := []
  clustersProcessed : Nat := 0
  clusterErrors : Nat := 0

/-- One round of the loop. -/
def processGroup (text : TextRules) (tenantId : String) (run : Run) (progress : Progress)
    (clusterIds : List Uuid) : Progress :=
  if clusterIds.length < 2 then
    progress
  else
    let merged := entityMergeCluster text tenantId run clusterIds progress.store
    { store := merged.1
      merges := progress.merges ++ merged.2.1
      clustersProcessed := progress.clustersProcessed + if merged.2.1.isEmpty then 0 else 1
      clusterErrors := progress.clusterErrors + if merged.2.2 then 1 else 0 }

/-- What a run returns. -/
inductive Resolution
  | skipped
  | allFailed (clusterErrors : Nat)
  | merged (mergeCount clusters clusterErrors : Nat) (mergedEntityIds : List Uuid)
  deriving DecidableEq, Repr

/-- The entities that a run reports as merged into others. -/
def Resolution.mergedEntityIds : Resolution → List Uuid
  | .skipped | .allFailed _ => []
  | .merged _ _ _ mergedEntityIds => mergedEntityIds

/-- The number of merges that a run reports. -/
def Resolution.mergeCount : Resolution → Nat
  | .skipped | .allFailed _ => 0
  | .merged mergeCount _ _ _ => mergeCount

/-- The pairs of a run that may be merged. -/
def compatibleRows (text : TextRules) (rows : List PairRow) : List PairRow :=
  rows.filter fun row => text.sameIdentifierSignature row.nameA row.nameB

/-- The groups of a run. -/
def resolutionGroups (text : TextRules) (order : SetOrder) (rows : List PairRow) :
    List (List Uuid) :=
  (entityClusters order ((compatibleRows text rows).map fun row => (row.idA, row.idB))).flatMap
    fun clusterIds => entityCompatibleGroups text clusterIds (names rows)

/-- `entity_resolve_duplicates`: the variables after the loop, and the result. -/
def entityResolveDuplicates (text : TextRules) (tenantId : String) (run : Run) (store : Store) :
    Progress × Resolution :=
  let rows := pairRows tenantId run.similar store
  if (compatibleRows text rows).isEmpty then
    ({ store }, .skipped)
  else
    let progress := (resolutionGroups text run.order rows).foldl
      (processGroup text tenantId run) { store }
    if progress.clustersProcessed = 0 ∧ 0 < progress.clusterErrors then
      (progress, .allFailed progress.clusterErrors)
    else
      (progress, .merged progress.merges.length progress.clustersProcessed
        progress.clusterErrors (progress.merges.map Prod.fst))

/-- The store after some runs, and all merges of them. -/
def resolveRuns (text : TextRules) (tenantId : String) (runs : List Run) (store : Store) :
    Store × List (Uuid × Uuid) :=
  runs.foldl (fun state run =>
    let progress := (entityResolveDuplicates text tenantId run state.1).1
    (progress.store, state.2 ++ progress.merges)) (store, [])

/-- The entity that an entity has been merged into, directly or through others. -/
def survivor (merges : List (Uuid × Uuid)) (entityId : Uuid) : Uuid :=
  merges.foldl (fun current merge => if current = merge.1 then merge.2 else current) entityId

/-! ## The reported merges -/

/-- The tenant's graph is the original one with the merges made one after another, and of
its entities those that were merged into others are gone. -/
structure Logged (tenantId : String) (original store : Store) (merges : List (Uuid × Uuid)) :
    Prop where
  graph : store.graph tenantId = merges.foldl
    (fun graph merge => graph.quotient merge.2 {merge.1}) (original.graph tenantId)
  entities : store.tenantEntities tenantId = (original.tenantEntities tenantId).filter
    fun entity => entity.id ∉ merges.map Prod.fst

section Merges

variable {original store : Store} {tenantId : String} {merges : List (Uuid × Uuid)}
  {canonicalId dupeId : Uuid} {dupeIds clusterIds : List Uuid} {mergeFails : Uuid → Bool}

theorem logged_nil : Logged tenantId store store [] where
  graph := rfl
  entities := by simp

theorem Logged.merge (logged : Logged tenantId original store merges)
    (apart : dupeId ≠ canonicalId) {after : Store}
    (ran : Merge.Ran { tenantId, canonicalId, dupeId } store after) :
    Logged tenantId original after (merges ++ [(dupeId, canonicalId)]) where
  graph := by
    rw [List.foldl_append, ← logged.graph]
    exact ran.graph apart
  entities := by
    rw [ran.tenantEntities, logged.entities, List.filter_filter]
    apply List.filter_congr
    intro entity _
    simp only [List.map_append, List.mem_append, List.map_singleton, List.mem_singleton]
    by_cases isDupe : entity.id = dupeId <;> simp [isDupe]

theorem Logged.mergeUntilFailure (logged : Logged tenantId original store merges)
    (mergeFails : Uuid → Bool) (apart : canonicalId ∉ dupeIds) :
    let result := mergeUntilFailure tenantId mergeFails canonicalId dupeIds store
    Logged tenantId original result.1 (merges ++ result.2.1) := by
  induction dupeIds generalizing store merges with
  | nil => simpa only [EntityGraph.mergeUntilFailure, List.append_nil] using logged
  | cons dupeId dupeIds ih =>
    rw [List.mem_cons, not_or] at apart
    rw [EntityGraph.mergeUntilFailure]
    dsimp only
    split
    · rwa [List.append_nil]
    next merged attempt =>
      obtain ⟨after, accepted, ran⟩ :=
        Merge.exists_ran { tenantId, canonicalId, dupeId } (Ne.symm apart.1) store
      split at attempt
      · cases attempt
      cases accepted.symm.trans attempt
      rw [← List.singleton_append, ← List.append_assoc]
      exact ih (logged.merge (Ne.symm apart.1) ran) apart.2

/-- Where no statement fails, all duplicates are merged. -/
theorem mergeUntilFailure_snd (tenantId : String) (store : Store) (apart : canonicalId ∉ dupeIds)
    (succeeds : ∀ dupeId ∈ dupeIds, mergeFails dupeId = false) :
    (mergeUntilFailure tenantId mergeFails canonicalId dupeIds store).2 =
      (dupeIds.map fun dupeId => (dupeId, canonicalId), false) := by
  induction dupeIds generalizing store with
  | nil => rfl
  | cons dupeId dupeIds ih =>
    rw [List.mem_cons, not_or] at apart
    obtain ⟨after, accepted, _⟩ :=
      Merge.exists_ran { tenantId, canonicalId, dupeId } (Ne.symm apart.1) store
    have rest := ih after apart.2 fun later laterMem => succeeds later (.tail dupeId laterMem)
    simp [mergeUntilFailure, succeeds dupeId (.head _), accepted, rest]

theorem not_mem_dupesOf {entities : List Entity} {canonical : Entity} :
    canonical.id ∉ dupesOf entities canonical := by
  simp [dupesOf]

theorem mem_clusterEntities_iff {entity : Entity} :
    entity ∈ clusterEntities tenantId clusterIds store ↔
      entity ∈ store.entities ∧ entity.id ∈ clusterIds ∧ entity.tenantId = tenantId := by
  unfold clusterEntities
  rw [Table.mem_def]
  simp

/-- Where no statement fails, a cluster with an entity is merged into one of its entities:
the others are gone, and the graph is the quotient by them. -/
theorem entityMergeCluster_is_quotient (text : TextRules) (run : Run)
    (loads : run.loadFails clusterIds = false)
    (succeeds : ∀ dupeId ∈ clusterIds, run.mergeFails dupeId = false)
    (found : clusterEntities tenantId clusterIds store ≠ []) :
    ∃ canonical ∈ clusterEntities tenantId clusterIds store, ∃ after,
      let dupeIds := dupesOf (clusterEntities tenantId clusterIds store) canonical
      entityMergeCluster text tenantId run clusterIds store =
        (after, dupeIds.map fun dupeId => (dupeId, canonical.id), false) ∧
      after.graph tenantId = (store.graph tenantId).quotient canonical.id dupeIds.toFinset ∧
      after.tenantEntities tenantId = (store.tenantEntities tenantId).filter
        fun entity => entity.id ∉ dupeIds := by
  unfold entityMergeCluster
  dsimp only
  rw [if_neg (Bool.eq_false_iff.mp loads)]
  cases chosen : chooseCanonical text.hasIdentifierOrQualifier
      (clusterEntities tenantId clusterIds store) with
  | none => exact absurd (chooseCanonical_eq_none chosen) found
  | some canonical =>
    have allSucceed : ∀ dupeId ∈ dupesOf (clusterEntities tenantId clusterIds store) canonical,
        run.mergeFails dupeId = false := by
      intro dupeId isDupe
      obtain ⟨entity, entityMem, rfl⟩ := List.mem_map.mp isDupe
      exact succeeds _ (mem_clusterEntities_iff.mp (List.mem_filter.mp entityMem).1).2.1
    have apart : canonical.id ∉ dupesOf (clusterEntities tenantId clusterIds store) canonical :=
      not_mem_dupesOf
    have all := mergeUntilFailure_snd tenantId store apart allSucceed
    have logged : Logged tenantId store _ _ := logged_nil.mergeUntilFailure run.mergeFails apart
    rw [all, List.nil_append] at logged
    refine ⟨canonical, chooseCanonical_mem chosen, _, Prod.ext rfl all, ?_, ?_⟩
    · rw [logged.graph, List.foldl_map]
      exact Quotient.Graph.foldl_quotient _ nodup_dupesOf_clusterEntities apart
    · simpa using logged.entities

/-- A run in which only two entities are similar, and nothing fails. -/
def pairRun (first second : Uuid) : Run where
  similar := [(first, second), (second, first)]
  order := ⟨id, List.Perm.refl⟩
  loadFails := fun _ => false
  mergeFails := fun _ => false

theorem entityMergeCluster_is_quotient_loop :
    (entityMergeCluster .ascii "t" (pairRun (.ofNat 1) (.ofNat 2)) [.ofNat 1, .ofNat 2]
      loopStore).2 = ([(.ofNat 2, .ofNat 1)], false) ∧
    ∃ canonical ∈ clusterEntities "t" [.ofNat 1, .ofNat 2] loopStore, ∃ after,
      let dupeIds := dupesOf (clusterEntities "t" [.ofNat 1, .ofNat 2] loopStore) canonical
      entityMergeCluster .ascii "t" (pairRun (.ofNat 1) (.ofNat 2)) [.ofNat 1, .ofNat 2]
        loopStore = (after, dupeIds.map fun dupeId => (dupeId, canonical.id), false) ∧
      after.graph "t" = (loopStore.graph "t").quotient canonical.id dupeIds.toFinset ∧
      after.tenantEntities "t" = (loopStore.tenantEntities "t").filter
        fun entity => entity.id ∉ dupeIds :=
  ⟨by decide +kernel, entityMergeCluster_is_quotient .ascii _ rfl (fun _ _ => rfl)
    (by decide +kernel)⟩

/-- A round of the loop makes the merges that it adds, whichever statement of it fails. -/
theorem Logged.processGroup {progress : Progress}
    (logged : Logged tenantId original progress.store progress.merges)
    (text : TextRules) (run : Run) (clusterIds : List Uuid) :
    let next := processGroup text tenantId run progress clusterIds
    Logged tenantId original next.store next.merges := by
  unfold EntityGraph.processGroup entityMergeCluster
  split
  · exact logged
  dsimp only
  split
  · rwa [List.append_nil]
  split
  · rwa [List.append_nil]
  · exact logged.mergeUntilFailure run.mergeFails not_mem_dupesOf

/-- A cluster in which something was merged is counted. -/
theorem merges_processGroup {text : TextRules} {run : Run} {progress : Progress}
    (counted : progress.clustersProcessed = 0 → progress.merges = []) :
    let next := processGroup text tenantId run progress clusterIds
    next.clustersProcessed = 0 → next.merges = [] := by
  unfold processGroup
  split
  · exact counted
  · simp only [Nat.add_eq_zero_iff, ite_eq_left_iff]
    rintro ⟨noneBefore, noneNow⟩
    simpa [counted noneBefore] using noneNow

end Merges

/-- What a run of the resolution reports is what it did to the tenant, whichever statements
failed: the graph has become its quotient by as many merges as it counts, one after another,
and the entities that are gone are those it lists, in the order of the merges. -/
theorem run_makes_reported_merges (text : TextRules) (tenantId : String) (run : Run)
    (store : Store) :
    let result := entityResolveDuplicates text tenantId run store
    ∃ merges, Logged tenantId store result.1.store merges ∧
      result.2.mergedEntityIds = merges.map Prod.fst ∧
      result.2.mergeCount = merges.length := by
  have loop (groups : List (List Uuid)) := List.foldlRecOn (motive := fun progress : Progress =>
      Logged tenantId store progress.store progress.merges ∧
        (progress.clustersProcessed = 0 → progress.merges = [])) groups
    (processGroup text tenantId run) (b := { store }) ⟨logged_nil, fun _ => rfl⟩
    fun _ kept group _ => ⟨kept.1.processGroup text run group, merges_processGroup kept.2⟩
  unfold entityResolveDuplicates
  dsimp only
  split
  · exact ⟨[], logged_nil, rfl, rfl⟩
  · obtain ⟨logged, counted⟩ := loop (resolutionGroups text run.order
      (pairRows tenantId run.similar store))
    split
    next failed =>
      rw [counted failed.1] at logged
      exact ⟨[], logged, rfl, rfl⟩
    · exact ⟨_, logged, rfl, rfl⟩

end Caura.EntityGraph
