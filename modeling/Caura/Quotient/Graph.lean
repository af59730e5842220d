import Mathlib.Data.Finset.Lattice.Union

/-!
# Quotients of labelled graphs

A graph has edges between vertices, each with a type and a label, links from outside to
its vertices, and subjects, which are single vertices.  Labels form a join semilattice
whose bottom is the label of an absent edge.  The quotient by a set of duplicates puts
the canonical vertex in their place: labels of edges that fall together are joined, except
that an edge within the block makes no loop where there was none.

The quotient by one duplicate after another is the quotient by all of them, so that the
order of the duplicates does not matter.  The quotient by one duplicate is also what two
absorptions make of a graph, one at the sources of the edges and one at their targets.
-/

namespace Caura.Quotient

open Finset

universe u v w x

variable {V : Type u} {T : Type v} {L : Type w} {M : Type x} [DecidableEq V]

/-! ## Blocks -/

/-- The vertices that a vertex of the quotient stands for. -/
def block (canonical : V) (dupes : Finset V) (vertex : V) : Finset V :=
  if vertex = canonical then insert canonical dupes else {vertex}

variable {canonical dupe : V} {dupes : Finset V}

section Block

variable {vertex other : V}

@[simp]
theorem block_canonical : block canonical dupes canonical = insert canonical dupes :=
  if_pos rfl

theorem block_of_ne (apart : vertex ≠ canonical) : block canonical dupes vertex = {vertex} :=
  if_neg apart

/-- Only the canonical vertex stands for others, which are the duplicates. -/
theorem mem_block_iff : other ∈ block canonical dupes vertex ↔
    other = vertex ∨ vertex = canonical ∧ other ∈ dupes := by
  by_cases isCanonical : vertex = canonical
  · subst isCanonical
    rw [block_canonical, mem_insert, and_iff_right rfl]
  · rw [block_of_ne isCanonical, mem_singleton]
    exact (or_iff_left fun both => isCanonical both.1).symm

@[simp]
theorem block_empty : block canonical ∅ vertex = {vertex} := by
  unfold block
  split
  next same => rw [same, insert_empty_eq]
  · rfl

/-- Blocks that are merged one after the other. -/
theorem mem_block_insert (apart : dupe ≠ canonical) :
    other ∈ block canonical (insert dupe dupes) vertex ↔
      ∃ middle ∈ block canonical {dupe} vertex, other ∈ block canonical dupes middle := by
  by_cases isCanonical : vertex = canonical
  · subst isCanonical
    simp only [block_canonical, mem_insert, mem_singleton, exists_eq_or_imp,
      exists_eq_left, block_of_ne apart]
    constructor
    · rintro (same | same | isDupe)
      · exact .inl (.inl same)
      · exact .inr same
      · exact .inl (.inr isDupe)
    · rintro ((same | isDupe) | same)
      · exact .inl same
      · exact .inr (.inr isDupe)
      · exact .inr (.inl same)
  · simp [block_of_ne isCanonical]

/-- A vertex of the quotient by one duplicate and then others stands for no duplicate. -/
theorem not_mem_of_mem_block (fresh : dupe ∉ dupes) (canonicalFresh : canonical ∉ dupes)
    (kept : vertex ∉ insert dupe dupes) (otherMem : other ∈ block canonical {dupe} vertex) :
    other ∉ dupes := by
  unfold block at otherMem
  split at otherMem
  · rcases mem_insert.mp otherMem with rfl | isDupe
    · exact canonicalFresh
    · rwa [mem_singleton.mp isDupe]
  · rw [mem_singleton.mp otherMem]
    exact fun isDupe => kept (mem_insert_of_mem isDupe)

theorem eq_of_canonical_mem_block
    (canonicalMem : canonical ∈ block canonical {dupe} vertex) : vertex = canonical := by
  unfold block at canonicalMem
  split at canonicalMem
  next same => exact same
  · exact (mem_singleton.mp canonicalMem).symm

end Block

/-! ## Edges -/

section Edges

variable [SemilatticeSup L] [OrderBot L] [DecidableEq L]

/-- The edge has no place in the quotient: an end of it is a duplicate, or it would be a
loop on the canonical vertex, which has none. -/
def Severed (canonical : V) (dupes : Finset V) (edges : V → T → V → L) (source : V) (type : T)
    (target : V) : Prop :=
  source ∈ dupes ∨ target ∈ dupes ∨
    source = canonical ∧ target = canonical ∧ edges canonical type canonical = ⊥

instance (canonical : V) (dupes : Finset V) (edges : V → T → V → L) (source : V) (type : T)
    (target : V) : Decidable (Severed canonical dupes edges source type target) :=
  inferInstanceAs (Decidable (_ ∨ _ ∨ _))

/-- The edges of the quotient. -/
def mergeEdges (canonical : V) (dupes : Finset V) (edges : V → T → V → L) : V → T → V → L :=
  fun source type target =>
    if Severed canonical dupes edges source type target then
      ⊥
    else
      (block canonical dupes source).sup fun near =>
        (block canonical dupes target).sup fun far => edges near type far

variable {edges : V → T → V → L} {type : T}

/-- The canonical vertex has a loop in the quotient where it has one. -/
theorem mergeEdges_loop_eq_bot_iff (canonicalFresh : canonical ∉ dupes) :
    mergeEdges canonical dupes edges canonical type canonical = ⊥ ↔
      edges canonical type canonical = ⊥ := by
  constructor
  · intro merged
    by_contra present
    have kept : ¬ Severed canonical dupes edges canonical type canonical := by
      simp [Severed, canonicalFresh, present]
    have inBlock : canonical ∈ block canonical dupes canonical := by
      simp
    rw [mergeEdges, if_neg kept, Finset.sup_eq_bot_iff] at merged
    exact present ((Finset.sup_eq_bot_iff _ _).mp (merged canonical inBlock) canonical inBlock)
  · intro absent
    exact if_pos (.inr (.inr ⟨rfl, rfl, absent⟩))

omit [DecidableEq L] in
theorem sup_block_insert (apart : dupe ≠ canonical) (vertex : V) (label : V → L) :
    (block canonical (insert dupe dupes) vertex).sup label =
      (block canonical {dupe} vertex).sup fun middle =>
        (block canonical dupes middle).sup label := by
  rw [← sup_biUnion]
  congr 1
  ext other
  rw [mem_block_insert apart, mem_biUnion]

/-- An edge that the quotient by all duplicates severs, that by the last one severs, or
finds absent. -/
theorem mergeEdges_of_severed (apart : dupe ≠ canonical) (canonicalFresh : canonical ∉ dupes)
    {source target : V} (severed : Severed canonical (insert dupe dupes) edges source type target) :
    mergeEdges canonical {dupe} (mergeEdges canonical dupes edges) source type target = ⊥ := by
  have fromAbsent : (∀ near ∈ block canonical {dupe} source,
      ∀ far ∈ block canonical {dupe} target, Severed canonical dupes edges near type far) →
      mergeEdges canonical {dupe} (mergeEdges canonical dupes edges) source type target = ⊥ := by
    intro inner
    unfold mergeEdges
    split
    · rfl
    · rw [Finset.sup_eq_bot_iff]
      intro near nearMem
      rw [Finset.sup_eq_bot_iff]
      intro far farMem
      exact if_pos (inner near nearMem far farMem)
  rcases severed with isDupe | isDupe | ⟨rfl, rfl, absent⟩
  · rcases mem_insert.mp isDupe with rfl | early
    · exact if_pos (.inl (mem_singleton_self _))
    · have away : source ≠ canonical := fun same => canonicalFresh (same ▸ early)
      apply fromAbsent
      intro near nearMem far _
      rw [block_of_ne away] at nearMem
      exact .inl (mem_singleton.mp nearMem ▸ early)
  · rcases mem_insert.mp isDupe with rfl | early
    · exact if_pos (.inr (.inl (mem_singleton_self _)))
    · have away : target ≠ canonical := fun same => canonicalFresh (same ▸ early)
      apply fromAbsent
      intro near _ far farMem
      rw [block_of_ne away] at farMem
      exact .inr (.inl (mem_singleton.mp farMem ▸ early))
  · rw [mergeEdges_loop_eq_bot_iff fun isDupe => apart (mem_singleton.mp isDupe).symm]
    exact (mergeEdges_loop_eq_bot_iff canonicalFresh).mpr absent

/-- Merging one more duplicate. -/
theorem mergeEdges_insert (apart : dupe ≠ canonical) (fresh : dupe ∉ dupes)
    (canonicalFresh : canonical ∉ dupes) :
    mergeEdges canonical {dupe} (mergeEdges canonical dupes edges) =
      mergeEdges canonical (insert dupe dupes) edges := by
  funext source type target
  by_cases severed : Severed canonical (insert dupe dupes) edges source type target
  · rw [mergeEdges_of_severed apart canonicalFresh severed, mergeEdges, if_pos severed]
  · obtain ⟨sourceKept, targetKept, noLoop⟩ := by
      simpa only [Severed, not_or] using severed
    have outer : ¬ Severed canonical {dupe} (mergeEdges canonical dupes edges)
        source type target := by
      rintro (isDupe | isDupe | ⟨rfl, rfl, absent⟩)
      · exact sourceKept (mem_insert.mpr (Or.inl (mem_singleton.mp isDupe)))
      · exact targetKept (mem_insert.mpr (.inl (mem_singleton.mp isDupe)))
      · exact noLoop ⟨rfl, rfl, (mergeEdges_loop_eq_bot_iff canonicalFresh).mp absent⟩
    have inner : ∀ near ∈ block canonical {dupe} source, ∀ far ∈ block canonical {dupe} target,
        mergeEdges canonical dupes edges near type far =
          (block canonical dupes near).sup fun first =>
            (block canonical dupes far).sup fun second => edges first type second := by
      intro near nearMem far farMem
      apply if_neg
      rintro (isDupe | isDupe | ⟨rfl, rfl, absent⟩)
      · exact not_mem_of_mem_block fresh canonicalFresh sourceKept nearMem isDupe
      · exact not_mem_of_mem_block fresh canonicalFresh targetKept farMem isDupe
      · exact noLoop ⟨eq_of_canonical_mem_block nearMem, eq_of_canonical_mem_block farMem, absent⟩
    rw [mergeEdges, if_neg outer, mergeEdges, if_neg severed, sup_block_insert apart]
    refine sup_congr rfl fun near nearMem => ?_
    calc (block canonical {dupe} target).sup (mergeEdges canonical dupes edges near type)
        = (block canonical {dupe} target).sup fun far =>
            (block canonical dupes near).sup fun first =>
              (block canonical dupes far).sup fun second => edges first type second :=
          sup_congr rfl (inner near nearMem)
      _ = (block canonical dupes near).sup fun first =>
            (block canonical {dupe} target).sup fun far =>
              (block canonical dupes far).sup fun second => edges first type second :=
          Finset.sup_comm _ _ _
      _ = (block canonical dupes near).sup fun first =>
            (block canonical (insert dupe dupes) target).sup fun second =>
              edges first type second := by
          simp [sup_block_insert apart]

/-! ## Absorption at one end -/

/-- Put the canonical vertex in the place of the duplicate at the first end of the edges,
where an edge to the canonical vertex makes no loop on it. -/
def absorb (canonical dupe : V) (edges : V → T → V → L) : V → T → V → L :=
  fun near type far =>
    if near = dupe ∨ near = canonical ∧ far = canonical ∧ edges canonical type canonical = ⊥ then
      ⊥
    else
      (block canonical {dupe} near).sup fun other => edges other type far

theorem absorb_loop_eq_bot_iff (apart : dupe ≠ canonical) :
    absorb canonical dupe edges canonical type canonical = ⊥ ↔
      edges canonical type canonical = ⊥ := by
  constructor
  · intro absorbed
    by_contra present
    rw [absorb, if_neg (by simp [apart.symm, present]), Finset.sup_eq_bot_iff] at absorbed
    exact present (absorbed canonical (by simp))
  · intro absent
    exact if_pos (.inr ⟨rfl, rfl, absent⟩)

/-- Absorption at the sources and then at the targets is the quotient by the duplicate. -/
theorem absorb_absorb (apart : dupe ≠ canonical) (source : V) (type : T) (target : V) :
    absorb canonical dupe (fun far type near => absorb canonical dupe edges near type far)
        target type source =
      mergeEdges canonical {dupe} edges source type target := by
  unfold mergeEdges
  by_cases severed : Severed canonical {dupe} edges source type target
  · rw [if_pos severed]
    rcases severed with isDupe | isDupe | ⟨rfl, rfl, absent⟩
    · unfold absorb
      split
      · rfl
      · simp [mem_singleton.mp isDupe]
    · exact if_pos (Or.inl (mem_singleton.mp isDupe))
    · exact if_pos (Or.inr ⟨rfl, rfl, (absorb_loop_eq_bot_iff apart).mpr absent⟩)
  · obtain ⟨sourceKept, targetKept, noLoop⟩ := by
      simpa only [Severed, not_or, mem_singleton] using severed
    have outer : ¬ (target = dupe ∨ target = canonical ∧ source = canonical ∧
        absorb canonical dupe edges canonical type canonical = ⊥) := by
      rintro (isDupe | ⟨isTarget, isSource, absent⟩)
      · exact targetKept isDupe
      · exact noLoop ⟨isSource, isTarget, (absorb_loop_eq_bot_iff apart).mp absent⟩
    have inner : ∀ far ∈ block canonical {dupe} target,
        absorb canonical dupe edges source type far =
          (block canonical {dupe} source).sup fun near => edges near type far := by
      intro far farMem
      apply if_neg
      rintro (isDupe | ⟨isSource, rfl, absent⟩)
      · exact sourceKept isDupe
      · exact noLoop ⟨isSource, eq_of_canonical_mem_block farMem, absent⟩
    rw [if_neg severed, absorb, if_neg outer, sup_congr rfl inner]
    exact Finset.sup_comm _ _ _

end Edges

/-! ## Graphs -/

/-- Edges, links of outsiders to vertices, and subjects of outsiders. -/
@[ext]
structure Graph (M : Type x) (V : Type u) (T : Type v) (L : Type w) where
  edges : V → T → V → L
  linked : M → V → Prop
  subject : M → Option V

namespace Graph

variable [SemilatticeSup L] [OrderBot L]

variable [DecidableEq L]

/-- The quotient of a graph by the duplicates of a vertex. -/
def quotient (graph : Graph M V T L) (canonical : V) (dupes : Finset V) : Graph M V T L where
  edges := mergeEdges canonical dupes graph.edges
  linked := fun outsider vertex =>
    vertex ∉ dupes ∧ ∃ other ∈ block canonical dupes vertex, graph.linked outsider other
  subject := fun outsider =>
    (graph.subject outsider).map fun vertex => if vertex ∈ dupes then canonical else vertex

variable {graph : Graph M V T L}

theorem quotient_empty : graph.quotient canonical ∅ = graph := by
  ext1
  · funext source type target
    simp only [quotient, mergeEdges, Severed, notMem_empty, false_or, block_empty, sup_singleton]
    split
    next loop =>
      obtain ⟨rfl, rfl, absent⟩ := loop
      exact absent.symm
    · rfl
  · funext outsider vertex
    simp [quotient]
  · funext outsider
    simp [quotient]

/-- The quotient by one more duplicate. -/
theorem quotient_insert (apart : dupe ≠ canonical) (fresh : dupe ∉ dupes)
    (canonicalFresh : canonical ∉ dupes) :
    (graph.quotient canonical dupes).quotient canonical {dupe} =
      graph.quotient canonical (insert dupe dupes) := by
  ext1
  · exact mergeEdges_insert apart fresh canonicalFresh
  · funext outsider vertex
    apply propext
    constructor
    · rintro ⟨notDupe, middle, middleMem, kept, other, otherMem, linked⟩
      refine ⟨?_, other, (mem_block_insert apart).mpr ⟨middle, middleMem, otherMem⟩, linked⟩
      intro isDupe
      rcases mem_insert.mp isDupe with same | early
      · exact notDupe (mem_singleton.mpr same)
      · have away : vertex ≠ canonical := fun same => canonicalFresh (same ▸ early)
        rw [block_of_ne away] at middleMem
        exact kept (mem_singleton.mp middleMem ▸ early)
    · rintro ⟨kept, other, otherMem, linked⟩
      obtain ⟨middle, middleMem, otherMem⟩ := (mem_block_insert apart).mp otherMem
      have notDupe : vertex ∉ ({dupe} : Finset V) :=
        fun isDupe => kept (mem_insert.mpr (.inl (mem_singleton.mp isDupe)))
      refine ⟨notDupe, middle, middleMem, not_mem_of_mem_block fresh canonicalFresh kept middleMem,
        other, otherMem, linked⟩
  · funext outsider
    simp only [quotient, Option.map_map]
    congr 1
    funext vertex
    by_cases early : vertex ∈ dupes
    · simp [early]
    · by_cases isDupe : vertex = dupe
      · simp [early]
      · simp [early]

theorem foldl_quotient_quotient (graph : Graph M V T L) {rest : List V} (nodup : rest.Nodup)
    (apart : ∀ vertex ∈ rest, vertex ≠ canonical ∧ vertex ∉ dupes)
    (canonicalFresh : canonical ∉ dupes) :
    rest.foldl (fun graph dupe => graph.quotient canonical {dupe})
        (graph.quotient canonical dupes) =
      graph.quotient canonical (dupes ∪ rest.toFinset) := by
  induction rest generalizing dupes with
  | nil => simp
  | cons dupe rest ih =>
    obtain ⟨notLater, nodupRest⟩ := List.nodup_cons.mp nodup
    obtain ⟨dupeApart, fresh⟩ := apart dupe (.head _)
    rw [List.foldl_cons, quotient_insert dupeApart fresh canonicalFresh, ih nodupRest]
    · rw [List.toFinset_cons, insert_union, union_insert]
    · intro vertex vertexMem
      obtain ⟨vertexApart, vertexFresh⟩ := apart vertex (.tail _ vertexMem)
      refine ⟨vertexApart, fun inDupes => ?_⟩
      rcases mem_insert.mp inDupes with rfl | early
      · exact notLater vertexMem
      · exact vertexFresh early
    · intro inDupes
      rcases mem_insert.mp inDupes with same | early
      · exact dupeApart same.symm
      · exact canonicalFresh early

/-- One quotient after another is the quotient by all the duplicates. -/
theorem foldl_quotient (graph : Graph M V T L) {rest : List V} (nodup : rest.Nodup)
    (canonicalFresh : canonical ∉ rest) :
    rest.foldl (fun graph dupe => graph.quotient canonical {dupe}) graph =
      graph.quotient canonical rest.toFinset := by
  have apart : ∀ vertex ∈ rest, vertex ≠ canonical ∧ vertex ∉ (∅ : Finset V) :=
    fun vertex vertexMem =>
      ⟨fun same => canonicalFresh (same ▸ vertexMem), notMem_empty vertex⟩
  have folded := foldl_quotient_quotient graph nodup apart (notMem_empty canonical)
  rwa [quotient_empty] at folded

end Graph

end Caura.Quotient
