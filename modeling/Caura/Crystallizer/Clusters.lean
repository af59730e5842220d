import Caura.Partition.Components
import Caura.Partition.Selection
import Caura.Value.Uuid

/-!
# Clusters of near-duplicates

The crystallizer joins the rows of overlapping near-duplicate pairs into clusters with a
union-find, drops the clusters below a size, splits those that no batch could hold, and
takes the smallest first as far as one batch goes.  A Python set is a list without
repetitions here, and the order in which it is iterated is left open.

Two facts matter later: the clusters of a batch have no row in common, and a property
that every pair shares is shared by the rows of a cluster.
-/

namespace Caura.Crystallizer

open Caura.Partition Caura.Value List

/-! ## Sets -/

/-- The order in which sets are iterated. -/
structure SetOrder where
  arrange : List Uuid → List Uuid
  perm : ∀ ids, (arrange ids).Perm ids

/-- The ids of the pairs, each once. -/
def pairMemberIds (pairs : List (Uuid × Uuid)) : List Uuid :=
  (pairs.flatMap fun pair => [pair.1, pair.2]).dedup

/-! ## Clusters -/

/-- The forest in which every pair is united. -/
def uniteAll (pairs : List (Uuid × Uuid)) : Forest Uuid :=
  pairs.foldl (fun forest pair => forest.union pair.1 pair.2) Forest.singletons

/-- One round of the loop that collects the ids under their roots. -/
def collect (state : Forest Uuid × List (Uuid × List Uuid)) (id : Uuid) :
    Forest Uuid × List (Uuid × List Uuid) :=
  ((state.1.find id).1, addTo (state.1.find id).2 id state.2)

/-- `_build_clusters`. -/
def buildClusters (order : SetOrder) (pairs : List (Uuid × Uuid)) : List (List Uuid) :=
  ((order.arrange (pairMemberIds pairs)).foldl collect (uniteAll pairs, [])).2.map Prod.snd

/-- `_split_cluster`: a cluster over the limit in balanced parts, by the order of the
texts of its ids, which is the order of their numbers. -/
def splitCluster (cluster : List Uuid) (limit : Nat) : List (List Uuid) :=
  if cluster.length ≤ limit then
    [cluster]
  else
    let ordered := cluster.insertionSort fun first second => first.value ≤ second.value
    let count := (ordered.length + limit - 1) / limit
    (List.range count).map fun offset => stride count offset ordered

/-- Smaller clusters first, then by their least ids. -/
def smallerFirst (first second : List Uuid) : Prop :=
  first.length < second.length ∨
    first.length = second.length ∧
      (first.map Uuid.value).min?.getD 0 ≤ (second.map Uuid.value).min?.getD 0

instance : DecidableRel smallerFirst :=
  fun _ _ => inferInstanceAs (Decidable (_ ∨ _))

/-- `CRYSTALLIZER_MAX_BATCH_SIZE`. -/
def crystallizerMaxBatchSize : Nat :=
  50

/-- The parts of the clusters that have at least `floor` rows, in the order they are
considered. -/
def partsWithin (order : SetOrder) (floor budget : Nat) (pairs : List (Uuid × Uuid)) :
    List (List Uuid) :=
  (((buildClusters order pairs).filter fun cluster => floor ≤ cluster.length).flatMap
    fun cluster => splitCluster cluster budget).insertionSort smallerFirst

/-- `selected_clusters`. -/
def selectedWithin (order : SetOrder) (floor budget : Nat) (pairs : List (Uuid × Uuid)) :
    List (List Uuid) :=
  selectWithin budget 0 (partsWithin order floor budget pairs)

/-- The clusters of one batch. -/
def selectedClusters (order : SetOrder) (minCluster : Nat) (pairs : List (Uuid × Uuid)) :
    List (List Uuid) :=
  selectedWithin order minCluster crystallizerMaxBatchSize pairs

/-! ## The clusters are the components -/

theorem foldl_collect_snd (ids : List Uuid) (forest : Forest Uuid)
    (groups : List (Uuid × List Uuid)) :
    (ids.foldl collect (forest, groups)).2 =
      ids.foldl (fun groups id => addTo (forest.root id) id groups) groups := by
  induction ids generalizing forest groups with
  | nil => rfl
  | cons id ids ih =>
    rw [foldl_cons, collect, ih, Forest.find_snd, Forest.root_find]
    rfl

/-- Ids collected under their roots, in any order. -/
theorem classes_collect {order : SetOrder} {forest : Forest Uuid} {ids : List Uuid} :
    Classes (fun id other => forest.root id = forest.root other) ids
      (((order.arrange ids).foldl collect (forest, [])).2.map Prod.snd) := by
  rw [foldl_collect_snd]
  exact classes_groupBy.perm (order.perm ids)

theorem classes_buildClusters (order : SetOrder) (pairs : List (Uuid × Uuid)) :
    Classes (Connected pairs) (pairMemberIds pairs) (buildClusters order pairs) :=
  classes_collect.congr (Forest.root_foldl_eq_iff_connected id
      (fun forest pair => forest.unites_union pair.1 pair.2) rfl pairs)

/-! ## No row is in two clusters -/

section Disjoint

theorem nodup_flatten_buildClusters (order : SetOrder) (pairs : List (Uuid × Uuid)) :
    (buildClusters order pairs).flatten.Nodup :=
  (classes_buildClusters order pairs).cover.nodup_iff.mpr (nodup_dedup _)

theorem nodup_flatten_filter_buildClusters (order : SetOrder) (minCluster : Nat)
    (pairs : List (Uuid × Uuid)) :
    ((buildClusters order pairs).filter fun cluster => minCluster ≤ cluster.length).flatten.Nodup :=
  (nodup_flatten_buildClusters order pairs).sublist filter_sublist.flatten

variable {cluster part : List Uuid} {limit : Nat}

/-- A part of a split cluster has only rows of the cluster. -/
theorem mem_of_mem_splitCluster {id : Uuid} (partMem : part ∈ splitCluster cluster limit)
    (idMem : id ∈ part) : id ∈ cluster := by
  unfold splitCluster at partMem
  split at partMem
  · rw [mem_singleton] at partMem
    exact partMem ▸ idMem
  · obtain ⟨offset, _, rfl⟩ := mem_map.mp partMem
    exact (mem_insertionSort _).mp (stride_sublist.subset idMem)

/-- The parts of a split cluster have its rows, each once. -/
theorem flatten_splitCluster (nodup : cluster.Nodup) (positive : 1 ≤ limit) :
    (splitCluster cluster limit).flatten.Perm cluster := by
  unfold splitCluster
  split
  · rw [flatten_singleton]
  next large =>
    let ordered := cluster.insertionSort fun first second => first.value ≤ second.value
    let count := (ordered.length + limit - 1) / limit
    have isCluster : ordered.Perm cluster := perm_insertionSort _ _
    have distinct : ordered.Nodup := isCluster.nodup_iff.mpr nodup
    have someParts : 0 < count :=
      Nat.div_pos (by have := isCluster.length_eq; omega) positive
    refine List.Perm.trans ?_ isCluster
    refine (perm_ext_iff_of_nodup (nodup_flatten.mpr ⟨?_, ?_⟩) distinct).mpr ?_
    · intro part partMem
      obtain ⟨offset, _, rfl⟩ := mem_map.mp partMem
      exact distinct.sublist stride_sublist
    · exact pairwise_map.mpr (nodup_range.imp (disjoint_stride distinct))
    · intro id
      constructor
      · intro idMem
        obtain ⟨part, partMem, inPart⟩ := mem_flatten.mp idMem
        obtain ⟨offset, _, rfl⟩ := mem_map.mp partMem
        exact stride_sublist.subset inPart
      · intro idMem
        obtain ⟨offset, inRange, inStride⟩ := exists_mem_stride someParts idMem
        exact mem_flatten.mpr ⟨_, mem_map.mpr ⟨offset, mem_range.mpr inRange, rfl⟩, inStride⟩

/-- The parts of clusters without a common row have no common row. -/
theorem flatten_flatMap_splitCluster {clusters : List (List Uuid)}
    (nodup : clusters.flatten.Nodup) (positive : 1 ≤ limit) :
    (clusters.flatMap fun cluster => splitCluster cluster limit).flatten.Perm clusters.flatten := by
  induction clusters with
  | nil => exact List.Perm.refl _
  | cons cluster clusters ih =>
    rw [flatMap_cons, flatten_append]
    exact (flatten_splitCluster nodup.of_append_left positive).append (ih nodup.of_append_right)

theorem flatten_partsWithin (order : SetOrder) (floor : Nat) {budget : Nat}
    (pairs : List (Uuid × Uuid)) (positive : 1 ≤ budget) :
    (partsWithin order floor budget pairs).flatten.Perm
      ((buildClusters order pairs).filter fun cluster => floor ≤ cluster.length).flatten :=
  (perm_insertionSort smallerFirst _).flatten.trans (flatten_flatMap_splitCluster
    (nodup_flatten_filter_buildClusters order floor pairs) positive)

/-- The clusters of a batch have no row in common. -/
theorem pairwise_disjoint_selectedClusters (order : SetOrder) (minCluster : Nat)
    (pairs : List (Uuid × Uuid)) :
    (selectedClusters order minCluster pairs).Pairwise List.Disjoint := by
  have partsNodup : (partsWithin order minCluster crystallizerMaxBatchSize pairs).flatten.Nodup :=
    (flatten_partsWithin order minCluster pairs (by decide)).nodup_iff.mpr
      (nodup_flatten_filter_buildClusters order minCluster pairs)
  exact (nodup_flatten.mp partsNodup).2.sublist (selectWithin_sublist _ _ _)

end Disjoint

/-! ## What the pairs share, the clusters share -/

section Labels

variable {β : Type} {label : Uuid → β} {first second : Uuid} {order : SetOrder}
  {pairs : List (Uuid × Uuid)} {cluster : List Uuid}

/-- The rows of a cluster have one label if the rows of every pair do. -/
theorem label_eq_of_mem_buildClusters (shared : ∀ pair ∈ pairs, label pair.1 = label pair.2)
    (clusterMem : cluster ∈ buildClusters order pairs) (firstMem : first ∈ cluster)
    (secondMem : second ∈ cluster) : label first = label second := by
  have classes := classes_buildClusters order pairs
  have secondPaired := classes.cover.mem_iff.mp (mem_flatten.mpr ⟨_, clusterMem, secondMem⟩)
  have joined := (classes.exact cluster clusterMem first firstMem second secondPaired).mp secondMem
  exact joined.label_eq shared

theorem label_eq_of_mem_selectedClusters {minCluster : Nat}
    (shared : ∀ pair ∈ pairs, label pair.1 = label pair.2)
    (clusterMem : cluster ∈ selectedClusters order minCluster pairs) (firstMem : first ∈ cluster)
    (secondMem : second ∈ cluster) : label first = label second := by
  have partMem := (mem_insertionSort _).mp ((selectWithin_sublist _ _ _).subset clusterMem)
  obtain ⟨whole, wholeMem, isPart⟩ := mem_flatMap.mp partMem
  exact label_eq_of_mem_buildClusters shared (mem_of_mem_filter wholeMem)
    (mem_of_mem_splitCluster isPart firstMem) (mem_of_mem_splitCluster isPart secondMem)

end Labels

end Caura.Crystallizer
