import Caura.EntityGraph.Resolution

/-!
# The merge groups of a run

The union-find by rank joins exactly the ids that the pairs connect, and each cluster is
cut into groups of compatible names.  The members of a cluster are visited in an order of
their names and ids, which is total, so neither the order of the pairs nor the iteration
order of a set decides what a group is.
-/

namespace Caura.EntityGraph

open Caura.Value Caura.Partition List
open Caura.Crystallizer (SetOrder pairMemberIds classes_collect)

theorem classes_entityClusters (order : SetOrder) (pairs : List (Uuid × Uuid)) :
    Classes (Connected pairs) (pairMemberIds pairs) (entityClusters order pairs) :=
  classes_collect.congr (Forest.root_foldl_eq_iff_connected Prod.fst
      (fun state pair => Forest.unites_unionByRank state.1 state.2 pair.1 pair.2) rfl pairs)

/-! ## The order of the members -/

section Order

variable (names : Uuid → String)

instance : Std.Total (longerFirst names) :=
  ⟨fun first second => by unfold longerFirst; omega⟩

instance : IsTrans Uuid (longerFirst names) :=
  ⟨fun first second third => by unfold longerFirst; omega⟩

instance : Std.Antisymm (longerFirst names) := by
  refine ⟨fun first second before after => Uuid.ext_value ?_⟩
  unfold longerFirst at before after
  omega

theorem insertionSort_longerFirst_congr {cluster members : List Uuid}
    (same : cluster.Perm members) :
    cluster.insertionSort (longerFirst names) = members.insertionSort (longerFirst names) :=
  List.Perm.eq_of_pairwise' (pairwise_insertionSort _ _) (pairwise_insertionSort _ _)
    ((perm_insertionSort _ _).trans (same.trans (perm_insertionSort _ _).symm))

end Order

/-! ## The groups of a cluster -/

section Groups

variable (text : TextRules) (names : Uuid → String) (cluster : List Uuid)

theorem flatten_entityCompatibleGroups :
    (entityCompatibleGroups text cluster names).flatten.Perm cluster := by
  refine (flatten_foldl_joinFirst _ []).trans ?_
  rw [flatten_nil, append_nil]
  exact perm_insertionSort _ _

variable {text names cluster} {group members : List Uuid}

/-- The names of a group are compatible. -/
theorem compatible_of_mem_entityCompatibleGroups
    (groupMem : group ∈ entityCompatibleGroups text cluster names) {first second : Uuid}
    (firstMem : first ∈ group) (secondMem : second ∈ group) :
    text.sameIdentifierSignature (names first) (names second) = true := by
  refine related_of_mem_foldl_joinFirst ?_ ?_ groupMem firstMem secondMem
  · exact fun _ => text.sameIdentifierSignature_self _
  · exact fun _ _ => text.sameIdentifierSignature_symm

theorem entityCompatibleGroups_congr (same : cluster.Perm members) :
    entityCompatibleGroups text cluster names = entityCompatibleGroups text members names := by
  rw [entityCompatibleGroups, entityCompatibleGroups, insertionSort_longerFirst_congr names same]

end Groups

/-! ## Independence of the orders -/

/-- A cluster of some pairs is one of the same pairs in another order, up to the order of
its members. -/
theorem exists_perm_mem_entityClusters {order other : SetOrder} {pairs listed : List (Uuid × Uuid)}
    (same : pairs.Perm listed) {cluster : List Uuid}
    (clusterMem : cluster ∈ entityClusters order pairs) :
    ∃ members ∈ entityClusters other listed, cluster.Perm members := by
  have classes := classes_entityClusters order pairs
  have others := classes_entityClusters other listed
  have sameIds : ∀ id, id ∈ pairMemberIds pairs ↔ id ∈ pairMemberIds listed := by
    intro id
    simp [pairMemberIds, same.mem_iff]
  have sameLinks : ∀ id other, Connected pairs id other ↔ Connected listed id other := by
    intro id other
    simp [Connected, same.mem_iff]
  obtain ⟨id, idMem⟩ := exists_mem_of_ne_nil _ (classes.inhabited cluster clusterMem)
  have isPaired : ∀ {ids : List Uuid} {id : Uuid}, ids ∈ entityClusters order pairs → id ∈ ids →
      id ∈ pairMemberIds pairs := fun idsMem idMem =>
    classes.cover.mem_iff.mp (mem_flatten.mpr ⟨_, idsMem, idMem⟩)
  obtain ⟨members, membersMem, isMember⟩ := mem_flatten.mp
    (others.cover.mem_iff.mpr ((sameIds id).mp (isPaired clusterMem idMem)))
  have nodups := (nodup_flatten.mp (classes.cover.nodup_iff.mpr (nodup_dedup _))).1
  have otherNodups := (nodup_flatten.mp (others.cover.nodup_iff.mpr (nodup_dedup _))).1
  refine ⟨members, membersMem, (perm_ext_iff_of_nodup (nodups _ clusterMem)
    (otherNodups _ membersMem)).mpr fun second => ?_⟩
  constructor
  · intro secondMem
    have paired := isPaired clusterMem secondMem
    rw [others.exact members membersMem id isMember second ((sameIds second).mp paired),
      ← sameLinks, ← classes.exact cluster clusterMem id idMem second paired]
    exact secondMem
  · intro secondMem
    have paired := (sameIds second).mpr
      (others.cover.mem_iff.mp (mem_flatten.mpr ⟨_, membersMem, secondMem⟩))
    rw [classes.exact cluster clusterMem id idMem second paired, sameLinks,
      ← others.exact members membersMem id isMember second ((sameIds second).mp paired)]
    exact secondMem

/-- The walks of the union-find end and its clusters are the components of the pairs; the
groups of a cluster are disjoint, cover it and have compatible names; and neither the
order of the members nor that of the pairs changes a group. -/
theorem merge_groups_partition (text : TextRules) (names : Uuid → String) (order : SetOrder)
    (pairs : List (Uuid × Uuid)) :
    (∀ (forest : Forest Uuid) (id : Uuid) (fuel : Nat), forest.unions < fuel →
      Forest.findFrom fuel forest id = some (forest.find id)) ∧
    Classes (Connected pairs) (pairMemberIds pairs) (entityClusters order pairs) ∧
    (∀ cluster ∈ entityClusters order pairs,
      (entityCompatibleGroups text cluster names).Pairwise List.Disjoint ∧
      (entityCompatibleGroups text cluster names).flatten.Perm cluster ∧
      ∀ group ∈ entityCompatibleGroups text cluster names, ∀ first ∈ group, ∀ second ∈ group,
        text.sameIdentifierSignature (names first) (names second) = true) ∧
    (∀ cluster members : List Uuid, cluster.Perm members →
      entityCompatibleGroups text cluster names = entityCompatibleGroups text members names) ∧
    ∀ (other : SetOrder) (listed : List (Uuid × Uuid)), pairs.Perm listed → ∀ group,
      (∃ cluster ∈ entityClusters order pairs, group ∈ entityCompatibleGroups text cluster names) ↔
        ∃ cluster ∈ entityClusters other listed,
          group ∈ entityCompatibleGroups text cluster names := by
  have classes := classes_entityClusters order pairs
  have nodups := (nodup_flatten.mp (classes.cover.nodup_iff.mpr (nodup_dedup _))).1
  refine ⟨fun forest id fuel enough => forest.findFrom_eq_find id enough, classes, ?_,
    fun _ _ same => entityCompatibleGroups_congr same, ?_⟩
  · intro cluster clusterMem
    have cover := flatten_entityCompatibleGroups text names cluster
    refine ⟨(nodup_flatten.mp (cover.nodup_iff.mpr (nodups cluster clusterMem))).2, cover, ?_⟩
    intro group groupMem first firstMem second secondMem
    exact compatible_of_mem_entityCompatibleGroups groupMem firstMem secondMem
  · intro other listed same group
    constructor
    · rintro ⟨cluster, clusterMem, groupMem⟩
      obtain ⟨members, membersMem, perm⟩ := exists_perm_mem_entityClusters same clusterMem
      exact ⟨members, membersMem, entityCompatibleGroups_congr perm ▸ groupMem⟩
    · rintro ⟨cluster, clusterMem, groupMem⟩
      obtain ⟨members, membersMem, perm⟩ := exists_perm_mem_entityClusters same.symm clusterMem
      exact ⟨members, membersMem, entityCompatibleGroups_congr perm ▸ groupMem⟩

end Caura.EntityGraph
