import Caura.Crystallizer.Clusters

/-!
# What one batch takes

The clusters are the components of the pairs.  A cluster over the budget of a batch is cut
into parts that differ by at most one row; the parts are considered smallest first, and
those that fit are selected.  The rest waits for another batch, and no other choice of
parts within the budget has more of them.
-/

namespace Caura.Crystallizer

open Caura.Partition Caura.Value List

/-! ## Any budget -/

/-- The rows that the selection leaves in `unsettled`. -/
def unsettledWithin (order : SetOrder) (floor budget : Nat) (pairs : List (Uuid × Uuid)) :
    List Uuid :=
  (deferWithin budget 0 (partsWithin order floor budget pairs)).flatten

instance : Std.Total smallerFirst :=
  ⟨fun first second => by unfold smallerFirst; omega⟩

instance : IsTrans (List Uuid) smallerFirst :=
  ⟨fun first second third => by unfold smallerFirst; omega⟩

section Selection

variable (order : SetOrder) (floor : Nat) {budget : Nat} (pairs : List (Uuid × Uuid))

theorem pairwise_length_partsWithin :
    (partsWithin order floor budget pairs).Pairwise fun first second =>
      first.length ≤ second.length := by
  refine (pairwise_insertionSort smallerFirst _).imp ?_
  intro first second inOrder
  unfold smallerFirst at inOrder
  omega

/-- The rows of a cluster that is large enough are selected, or wait, and not both. -/
theorem selected_xor_unsettled (positive : 1 ≤ budget) {cluster : List Uuid}
    (clusterMem : cluster ∈ buildClusters order pairs) (isLarge : floor ≤ cluster.length)
    {id : Uuid} (idMem : id ∈ cluster) :
    Xor (∃ part ∈ selectedWithin order floor budget pairs, id ∈ part)
      (id ∈ unsettledWithin order floor budget pairs) := by
  have isPart := (selectWithin_append_deferWithin budget 0
    (partsWithin order floor budget pairs)).flatten.trans
      (flatten_partsWithin order floor pairs positive)
  rw [flatten_append] at isPart
  have apart := disjoint_of_nodup_append
    (isPart.nodup_iff.mpr (nodup_flatten_filter_buildClusters order floor pairs))
  have present := isPart.mem_iff.mpr (mem_flatten.mpr
    ⟨cluster, mem_filter.mpr ⟨clusterMem, decide_eq_true isLarge⟩, idMem⟩)
  rw [← mem_flatten]
  rcases mem_append.mp present with selected | waits
  · exact .inl ⟨selected, apart selected⟩
  · exact .inr ⟨waits, fun selected => apart selected waits⟩

end Selection

/-! ## The parts of a cluster -/

/-- Parts that share out the rows of a cluster evenly, within a limit. -/
structure SharesOut (cluster : List Uuid) (limit : Nat) (parts : List (List Uuid)) : Prop where
  disjoint : parts.Pairwise List.Disjoint
  cover : parts.flatten.Perm cluster
  bounded : ∀ part ∈ parts, part.length ≤ limit
  balanced : ∀ part ∈ parts, ∀ other ∈ parts, part.length ≤ other.length + 1

theorem sharesOut_splitCluster {cluster : List Uuid} (nodup : cluster.Nodup) {limit : Nat}
    (positive : 1 ≤ limit) : SharesOut cluster limit (splitCluster cluster limit) := by
  have cover := flatten_splitCluster nodup positive
  refine ⟨(nodup_flatten.mp (cover.nodup_iff.mpr nodup)).2, cover, ?_, ?_⟩
  · intro part partMem
    unfold splitCluster at partMem
    split at partMem
    next fits =>
      rwa [mem_singleton.mp partMem]
    · obtain ⟨offset, inRange, rfl⟩ := mem_map.mp partMem
      refine length_stride_le (mem_range.mp inRange) ?_
      have rounded := Nat.lt_mul_div_succ ((cluster.insertionSort fun first second =>
        first.value ≤ second.value).length + limit - 1) positive
      rw [Nat.mul_comm]
      rw [Nat.mul_add] at rounded
      omega
  · intro part partMem other otherMem
    unfold splitCluster at partMem otherMem
    split at partMem
    next fits =>
      rw [if_pos fits] at otherMem
      rw [mem_singleton.mp partMem, mem_singleton.mp otherMem]
      exact Nat.le_succ _
    next large =>
      rw [if_neg large] at otherMem
      obtain ⟨offset, inRange, rfl⟩ := mem_map.mp partMem
      obtain ⟨otherOffset, otherInRange, rfl⟩ := mem_map.mp otherMem
      exact length_stride_le_succ (mem_range.mp inRange) (mem_range.mp otherInRange)

/-! ## The selection -/

/-- The walks of the union-find end and its clusters are the components of the pairs; the
parts of a cluster share it out within the budget; and the selected parts fit the budget,
leave every other row of a cluster that is large enough for later, and are as many as
fit. -/
theorem selection_is_maximal (order : SetOrder) (pairs : List (Uuid × Uuid)) (floor : Nat)
    {budget : Nat} (positive : 1 ≤ budget) :
    (∀ (forest : Forest Uuid) (id : Uuid) (fuel : Nat), forest.unions < fuel →
      Forest.findFrom fuel forest id = some (forest.find id)) ∧
    Classes (Connected pairs) (pairMemberIds pairs) (buildClusters order pairs) ∧
    (∀ cluster ∈ buildClusters order pairs,
      SharesOut cluster budget (splitCluster cluster budget)) ∧
    (selectedWithin order floor budget pairs).flatten.length ≤ budget ∧
    (∀ cluster ∈ buildClusters order pairs, floor ≤ cluster.length → ∀ id ∈ cluster,
      Xor (∃ part ∈ selectedWithin order floor budget pairs, id ∈ part)
        (id ∈ unsettledWithin order floor budget pairs)) ∧
    ∀ chosen : List (List Uuid), chosen.Subperm (partsWithin order floor budget pairs) →
      chosen.flatten.length ≤ budget →
        chosen.length ≤ (selectedWithin order floor budget pairs).length := by
  have nodups := (nodup_flatten.mp (nodup_flatten_buildClusters order pairs)).1
  refine ⟨fun forest id fuel enough => forest.findFrom_eq_find id enough,
    classes_buildClusters order pairs,
    fun cluster clusterMem => sharesOut_splitCluster (nodups cluster clusterMem) positive,
    ?_, ?_, ?_⟩
  · have within := length_flatten_selectWithin (partsWithin order floor budget pairs)
      (Nat.zero_le budget)
    rwa [Nat.zero_add] at within
  · intro cluster clusterMem isLarge id idMem
    exact selected_xor_unsettled order floor pairs positive clusterMem isLarge idMem
  · intro chosen isChoice fits
    refine length_le_length_selectWithin (pairwise_length_partsWithin order floor pairs) isChoice ?_
    rwa [Nat.zero_add]

/-- Two rows with room for one: the pair is cut in two, and one part waits. -/
theorem selection_is_maximal_cutPair : (selectedWithin ⟨id, fun _ => List.Perm.refl _⟩ 2 1
      [(Uuid.ofNat 1, Uuid.ofNat 2)]).flatten.length ≤ 1 :=
  (selection_is_maximal _ _ 2 (Nat.le_refl 1)).2.2.2.1

end Caura.Crystallizer
