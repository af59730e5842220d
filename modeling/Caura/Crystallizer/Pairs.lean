import Caura.Crystallizer.Run

/-!
# Near-duplicate pairs

`memory_find_near_duplicate_pairs` answers one page of the sweep that precedes a run:
candidates that were not checked yet, newest first, each with the nearest rows of its own
fleet that are near enough.  `_check_near_duplicates` asks for page after page and keeps
the pairs in the order they come, each once and up to a cap.

The distance of two rows is a parameter, since it is the database that computes it, and
so is the order in which equally near rows come.  The memories may change from page to
page.  Whatever they are, the rows of a pair are in one tenant and one fleet.
-/

namespace Caura.Crystallizer

open Caura.Memory Caura.Value List

/-! ## One page -/

/-- What a sweep asks for, and what the database answers it from. -/
structure Sweep where
  tenantId : String
  fleetId : Option String
  threshold : ℚ
  distance : Uuid → Uuid → ℚ
  /-- `last_dedup_checked_at` is not null. -/
  dedupChecked : Uuid → Bool
  order : SetOrder

/-- `CRYSTALLIZER_DEDUP_BATCH_SIZE`. -/
def crystallizerDedupBatchSize : Nat :=
  500

/-- `CRYSTALLIZER_DEDUP_NEIGHBORS`. -/
def crystallizerDedupNeighbors : Nat :=
  5

/-- `CRYSTALLIZER_MAX_DEDUP_PAIRS`. -/
def crystallizerMaxDedupPairs : Nat :=
  1000

/-- `ORDER BY created_at DESC, id DESC`. -/
def newestFirst (first second : Row) : Bool :=
  first.newestFirst second (second.id.value ≤ first.id.value)

/-- `ORDER BY similarity DESC, id`. -/
def nearestFirst (first second : Uuid × ℚ) : Bool :=
  second.2 < first.2 || (second.2 == first.2 && first.1.value ≤ second.1.value)

namespace Sweep

variable (sweep : Sweep)

/-- What the statement asks of a row on either side of a pair, `_scope_sql` first. -/
def offers (row : Row) : Bool :=
  row.tenantId == sweep.tenantId &&
    (sweep.fleetId.all fun fleetId => row.fleetId == some fleetId) &&
    row.embedded && row.live && sharedVisibilities.contains row.visibility

/-- The candidates of the page. -/
def candidates (memories : Memories) (offset : Nat) : List Row :=
  let unchecked := memories.rows.filter fun row =>
    sweep.offers row && !sweep.dedupChecked row.id
  ((unchecked.insertionSort fun first second => newestFirst first second).drop offset).take
    crystallizerDedupBatchSize

/-- The rows that may be a candidate's neighbours. -/
def neighborRows (memories : Memories) (candidate : Row) : List Row :=
  memories.rows.filter fun row =>
    sweep.offers row && row.fleetId == candidate.fleetId && row.id != candidate.id

/-- The nearest of them, as far as they are near enough, with their similarity. -/
def neighbors (memories : Memories) (candidate : Row) : List (Uuid × ℚ) :=
  let arranged := sweep.order.arrange ((sweep.neighborRows memories candidate).map Row.id)
  let nearest := (arranged.insertionSort fun first second =>
    sweep.distance first candidate.id ≤ sweep.distance second candidate.id).take
      crystallizerDedupNeighbors
  let similar := (nearest.map fun id => (id, 1 - sweep.distance id candidate.id)).filter
    fun neighbor => sweep.threshold ≤ neighbor.2
  similar.insertionSort fun first second => nearestFirst first second

/-- `memory_find_near_duplicate_pairs`: each candidate of the page with each of its
neighbours, or with none. -/
def findNearDuplicatePairs (memories : Memories) (offset : Nat) :
    List (Uuid × Option (Uuid × ℚ)) :=
  (sweep.candidates memories offset).flatMap fun candidate =>
    match sweep.neighbors memories candidate with
    | [] => [(candidate.id, none)]
    | found => found.map fun neighbor => (candidate.id, some neighbor)

end Sweep

/-! ## The sweep -/

/-- The two ids in the order of their texts, which is that of their numbers. -/
def pairKey (first second : Uuid) : Uuid × Uuid :=
  if first.value ≤ second.value then (first, second) else (second, first)

/-- Keep a pair that is new, up to the cap. -/
def keepPair (pairs : List ((Uuid × Uuid) × ℚ)) (found : Uuid × Option (Uuid × ℚ)) :
    List ((Uuid × Uuid) × ℚ) :=
  match found.2 with
  | none => pairs
  | some (neighborId, similarity) =>
    let key := pairKey found.1 neighborId
    if key ∉ pairs.map Prod.fst ∧ pairs.length < crystallizerMaxDedupPairs then
      pairs ++ [(key, similarity)]
    else
      pairs

/-- `_check_near_duplicates`, over the memories as each page finds them. -/
def Sweep.checkNearDuplicates (sweep : Sweep) :
    List Memories → Nat → List ((Uuid × Uuid) × ℚ) → List ((Uuid × Uuid) × ℚ)
  | [], _, pairs => pairs
  | memories :: later, offset, pairs =>
    if pairs.length < crystallizerMaxDedupPairs then
      let page := sweep.findNearDuplicatePairs memories offset
      if page.isEmpty then
        pairs
      else
        sweep.checkNearDuplicates later (offset + crystallizerDedupBatchSize)
          (page.foldl keepPair pairs)
    else
      pairs

/-! ## Pairs stay in one fleet -/

section Joined

variable {sweep : Sweep} {memories : Memories} {offset : Nat}

theorem mem_candidates {row : Row} (rowMem : row ∈ sweep.candidates memories offset) :
    row ∈ memories ∧ sweep.offers row = true := by
  have sorted := mem_of_mem_drop (mem_of_mem_take rowMem)
  obtain ⟨stored, offered⟩ := mem_filter.mp ((mem_insertionSort _).mp sorted)
  exact ⟨stored, (Bool.and_eq_true _ _ ▸ offered).1⟩

variable {neighbor : Uuid × ℚ}

/-- A neighbour is offered by the sweep, and is in the candidate's fleet. -/
theorem mem_neighbors {candidate : Row}
    (neighborMem : neighbor ∈ sweep.neighbors memories candidate) :
    ∃ row ∈ memories, row.id = neighbor.1 ∧ sweep.offers row = true ∧
      row.fleetId = candidate.fleetId ∧ row.id ≠ candidate.id := by
  have similar := mem_of_mem_filter ((mem_insertionSort _).mp neighborMem)
  obtain ⟨id, nearest, rfl⟩ := mem_map.mp similar
  have arranged := (mem_insertionSort _).mp (mem_of_mem_take nearest)
  obtain ⟨row, rowMem, rfl⟩ := mem_map.mp ((sweep.order.perm _).mem_iff.mp arranged)
  obtain ⟨stored, meets⟩ := mem_filter.mp rowMem
  rw [Bool.and_eq_true, Bool.and_eq_true, beq_iff_eq, bne_iff_ne] at meets
  exact ⟨row, stored, rfl, meets.1.1, meets.1.2, meets.2⟩

/-- The rows of a pair of a page. -/
theorem mem_findNearDuplicatePairs {id : Uuid}
    (found : (id, some neighbor) ∈ sweep.findNearDuplicatePairs memories offset) :
    ∃ first ∈ memories, ∃ second ∈ memories, first.id = id ∧ second.id = neighbor.1 ∧
      sweep.offers first = true ∧ sweep.offers second = true ∧
      second.fleetId = first.fleetId ∧ second.id ≠ first.id := by
  obtain ⟨candidate, candidateMem, isFound⟩ := mem_flatMap.mp found
  obtain ⟨stored, offered⟩ := mem_candidates candidateMem
  have isNeighbor : candidate.id = id ∧ neighbor ∈ sweep.neighbors memories candidate := by
    split at isFound
    · cases mem_singleton.mp isFound
    · obtain ⟨other, otherMem, same⟩ := mem_map.mp isFound
      cases same
      exact ⟨rfl, otherMem⟩
  obtain ⟨row, rowMem, rowId, rowOffered, fleet, apart⟩ := mem_neighbors isNeighbor.2
  exact ⟨candidate, stored, row, rowMem, isNeighbor.1, rowId, offered, rowOffered, fleet, apart⟩

/-- The ids of every pair share a label. -/
def Shares {β : Type} (label : Uuid → β) (pairs : List ((Uuid × Uuid) × ℚ)) : Prop :=
  ∀ pair ∈ pairs, label pair.1.1 = label pair.1.2

variable {β : Type} {label : Uuid → β} {pairs : List ((Uuid × Uuid) × ℚ)}

theorem Shares.keepPair (shares : Shares label pairs) {found : Uuid × Option (Uuid × ℚ)}
    (same : ∀ neighbor, found.2 = some neighbor → label neighbor.1 = label found.1) :
    Shares label (keepPair pairs found) := by
  unfold Crystallizer.keepPair
  split
  · exact shares
  next neighborId similarity isFound =>
    dsimp only
    split
    · intro pair pairMem
      rcases mem_append.mp pairMem with old | new
      · exact shares pair old
      · rw [mem_singleton.mp new]
        have labels := same _ isFound
        unfold pairKey
        split
        · exact labels.symm
        · exact labels
    · exact shares

theorem Shares.page (shares : Shares label pairs) {page : List (Uuid × Option (Uuid × ℚ))}
    (same : ∀ found ∈ page, ∀ neighbor, found.2 = some neighbor →
      label neighbor.1 = label found.1) :
    Shares label (page.foldl Crystallizer.keepPair pairs) :=
  List.foldlRecOn _ _ shares fun _ kept found foundMem => kept.keepPair (same found foundMem)

/-- Pairs of a sweep share what rows of one tenant and fleet share in every store that
the sweep finds. -/
theorem shares_checkNearDuplicates {stores : List Memories}
    (same : ∀ memories ∈ stores, ∀ first ∈ memories, ∀ second ∈ memories,
      first.tenantId = second.tenantId → first.fleetId = second.fleetId →
        label first.id = label second.id) (offset : Nat) (shares : Shares label pairs) :
    Shares label (sweep.checkNearDuplicates stores offset pairs) := by
  induction stores generalizing offset pairs with
  | nil => exact shares
  | cons memories later ih =>
    unfold Sweep.checkNearDuplicates
    dsimp only
    split
    · split
      · exact shares
      · apply ih fun other otherMem => same other (.tail _ otherMem)
        apply shares.page
        rintro ⟨id, _⟩ foundMem neighbor rfl
        obtain ⟨first, firstMem, second, secondMem, rfl, secondId, firstOffered, secondOffered,
          fleet, _⟩ := mem_findNearDuplicatePairs foundMem
        rw [← secondId]
        apply same memories (.head _) second secondMem first firstMem ?_ fleet
        simp only [Sweep.offers, Bool.and_eq_true, beq_iff_eq] at firstOffered secondOffered
        rw [firstOffered.1.1.1.1, secondOffered.1.1.1.1]
    · exact shares

end Joined

end Caura.Crystallizer
