import Caura.Memory.Successors
import Caura.Walk.PostOrder

/-!
# Search results with their corrections

The last step of a search looks up the successors of the stale rows among the results,
injects the newest successor of each stale row that is not a result yet, and reorders the
rows so that a successor stands above what it supersedes.  A row supersedes the one its
edge names, and a row that storage found through a conflict record supersedes the loser of
the record.

The reordering is a post-order walk along these relations.  It ends with a permutation
even if they form a circle, which only corrupt data can.
-/

namespace Caura.Search

open Caura.Memory Caura.Value Caura.Walk List

/-! ## Rows -/

/-- A row of the results. -/
structure Hit where
  memory : Row
  injected : Bool := false

/-- The id of its memory. -/
def Hit.id (hit : Hit) : Uuid :=
  hit.memory.id

/-- A successor as storage reports it, with the text of its creation time. -/
structure FoundSuccessor where
  memory : Row
  createdAt : String := ""
  successorOf : Option Uuid := none

/-- The row that a successor replaced. -/
def FoundSuccessor.predecessor (found : FoundSuccessor) : Option Uuid :=
  found.successorOf.or found.memory.supersedesId

/-- The order of `_successor_recency`: by the creation time, then by the id. -/
def FoundSuccessor.isNewer (first second : FoundSuccessor) : Bool :=
  second.createdAt < first.createdAt ||
    (first.createdAt == second.createdAt && second.memory.id.str < first.memory.id.str)

/-- A warning of the response. -/
structure SearchWarning where
  code : String := "successor_enrichment_incomplete"
  message : String :=
    "Some outdated/conflicted results may be missing the newer memory that supersedes them."
  reason : String
  staleResultCount : Nat
  enriched : Nat
  deriving DecidableEq, Repr

/-- `MAX_SUCCESSOR_LOOKUPS`. -/
def maxSuccessorLookups : Nat :=
  1000

/-! ## Injection -/

/-- The ids of the stale rows. -/
def outdatedIds (rows : List Hit) : List Uuid :=
  (rows.filter fun row => row.memory.contradicted).map Hit.id

/-- The ids that are looked up. -/
def lookupIds (rows : List Hit) : List Uuid :=
  (outdatedIds rows).take maxSuccessorLookups

/-- Keep a successor unless the one kept for its predecessor is at least as new. -/
def keepNewest (kept : List (Option Uuid × FoundSuccessor)) (found : FoundSuccessor) :
    List (Option Uuid × FoundSuccessor) :=
  match kept with
  | [] => [(found.predecessor, found)]
  | entry :: kept =>
    if entry.1 = found.predecessor then
      (entry.1, if found.isNewer entry.2 then found else entry.2) :: kept
    else
      entry :: keepNewest kept found

/-- The newest successor of each predecessor. -/
def newestByPredecessor (successors : List FoundSuccessor) :
    List (Option Uuid × FoundSuccessor) :=
  successors.foldl keepNewest []

/-- The pairs of a loser and its successor that come from a record. -/
def recordedPairs (successors : List FoundSuccessor) : List (Option Uuid × Uuid) :=
  (successors.filter fun found => found.predecessor != found.memory.supersedesId).map
    fun found => (found.predecessor, found.memory.id)

/-- Append a successor that is not among the rows. -/
def inject (rows : List Hit) (entry : Option Uuid × FoundSuccessor) : List Hit :=
  if (rows.map Hit.id).contains entry.2.memory.id then
    rows
  else
    rows ++ [{ memory := entry.2.memory, injected := true }]

/-- The successors of the stale rows; a lookup that fails finds none. -/
def successors (findSuccessors : List Uuid → Option (List FoundSuccessor)) (rows : List Hit) :
    List FoundSuccessor :=
  if (outdatedIds rows).isEmpty then
    []
  else
    (findSuccessors (lookupIds rows)).getD []

/-- The rows with the injected successors. -/
def withSuccessors (found : List FoundSuccessor) (rows : List Hit) : List Hit :=
  (newestByPredecessor found).foldl inject rows

/-- The warnings of the response. -/
def warnings (findSuccessors : List Uuid → Option (List FoundSuccessor)) (rows : List Hit) :
    List SearchWarning :=
  let staleTotal := (outdatedIds rows).length
  if staleTotal = 0 then
    []
  else
    (if maxSuccessorLookups < staleTotal then
      [{ reason := "lookup_bound_exceeded", staleResultCount := staleTotal
         enriched := maxSuccessorLookups }]
    else
      []) ++
    if (findSuccessors (lookupIds rows)).isNone then
      [{ reason := "storage_error", staleResultCount := staleTotal, enriched := 0 }]
    else
      []

/-! ## Reordering -/

/-- The row with an id. -/
def byId (rows : List Hit) (id : Uuid) : Option Hit :=
  rows.reverse.find? fun row => row.id == id

/-- The pairs of a record whose rows are both among the results. -/
def presentPairs (rows : List Hit) (recorded : List (Option Uuid × Uuid)) : List (Uuid × Hit) :=
  recorded.filterMap fun pair => do
    let predecessor ← pair.1
    let stale ← byId rows predecessor
    let successor ← byId rows pair.2
    some (stale.id, successor)

/-- The entry of `succ_of` for an id. -/
def succOf (rows : List Hit) (recorded : List (Option Uuid × Uuid)) (id : Uuid) : List Hit :=
  (rows.filter fun row => row.memory.supersedesId == some id) ++
    ((presentPairs rows recorded).filter fun pair => pair.1 == id).map Prod.snd

/-- The rows with each successor above what it supersedes. -/
def reorder (rows : List Hit) (recorded : List (Option Uuid × Uuid)) : Option (List Hit) :=
  if (rows.all fun row => row.memory.supersedesId.isNone) &&
      (presentPairs rows recorded).isEmpty then
    some rows
  else
    placeAll Hit.id (succOf rows recorded) rows

/-- `LoadAndSerialize.execute`: the rows that are serialized, and the warnings. -/
def loadAndSerialize (findSuccessors : List Uuid → Option (List FoundSuccessor))
    (filteredRows : List Hit) : Option (List Hit) × List SearchWarning :=
  let found := successors findSuccessors filteredRows
  (reorder (withSuccessors found filteredRows) (recordedPairs found),
    warnings findSuccessors filteredRows)

/-! ## What is injected -/

variable {rows : List Hit}

section Injection

variable {found : List FoundSuccessor}

theorem map_fst_keepNewest (kept : List (Option Uuid × FoundSuccessor)) (found : FoundSuccessor) :
    (keepNewest kept found).map Prod.fst =
      if found.predecessor ∈ kept.map Prod.fst then kept.map Prod.fst
      else kept.map Prod.fst ++ [found.predecessor] := by
  induction kept with
  | nil => simp [keepNewest]
  | cons entry kept ih =>
    unfold keepNewest
    by_cases same : entry.1 = found.predecessor
    · simp [same]
    · rw [if_neg same, map_cons, ih]
      simp only [map_cons, mem_cons, Ne.symm same, false_or]
      split <;> rfl

/-- The predecessors are those of the successors, each once. -/
theorem newestByPredecessor_keys (found : List FoundSuccessor) :
    ((newestByPredecessor found).map Prod.fst).Nodup ∧
      (newestByPredecessor found).map Prod.fst ⊆ found.map FoundSuccessor.predecessor := by
  refine List.foldlRecOn (motive := fun kept : List (Option Uuid × FoundSuccessor) =>
    (kept.map Prod.fst).Nodup ∧ kept.map Prod.fst ⊆ found.map FoundSuccessor.predecessor)
    found keepNewest ⟨nodup_nil, nil_subset _⟩ fun kept keys next nextMem => ?_
  rw [map_fst_keepNewest]
  split
  · exact keys
  next absent =>
    refine ⟨nodup_append'.mpr ⟨keys.1, nodup_singleton _, ?_⟩, ?_⟩
    · exact disjoint_singleton.mpr absent
    · refine append_subset.mpr ⟨keys.2, ?_⟩
      intro key isNext
      exact mem_singleton.mp isNext ▸ mem_map_of_mem nextMem

theorem nodup_inject (distinct : (rows.map Hit.id).Nodup)
    (entry : Option Uuid × FoundSuccessor) : ((inject rows entry).map Hit.id).Nodup := by
  unfold inject
  split
  · exact distinct
  next absent =>
    rw [map_append]
    refine nodup_append'.mpr ⟨distinct, nodup_singleton _, ?_⟩
    exact disjoint_singleton.mpr (mt contains_iff_mem.mpr absent)

theorem nodup_withSuccessors (distinct : (rows.map Hit.id).Nodup) (found : List FoundSuccessor) :
    ((withSuccessors found rows).map Hit.id).Nodup :=
  List.foldlRecOn (motive := fun rows : List Hit => (rows.map Hit.id).Nodup) _ _ distinct
    fun _ distinct entry _ => nodup_inject distinct entry

/-- The injected rows come after the others, at most one for each predecessor. -/
theorem exists_withSuccessors (found : List FoundSuccessor) (rows : List Hit) :
    ∃ injected, withSuccessors found rows = rows ++ injected ∧
      (∀ hit ∈ injected, hit.injected = true) ∧
      injected.length ≤ (newestByPredecessor found).length := by
  unfold withSuccessors
  generalize newestByPredecessor found = entries
  induction entries generalizing rows with
  | nil => exact ⟨[], by simp, by simp, by simp⟩
  | cons entry entries ih =>
    obtain ⟨injected, equal, label, few⟩ := ih (inject rows entry)
    rw [foldl_cons, equal]
    unfold inject
    split
    · exact ⟨injected, rfl, label, few.trans (Nat.le_succ _)⟩
    · refine ⟨{ memory := entry.2.memory, injected := true } :: injected, by simp, ?_, ?_⟩
      · exact forall_mem_cons.mpr ⟨rfl, label⟩
      · exact Nat.succ_le_succ few

/-- At most one row is injected for each row that was looked up. -/
theorem length_withSuccessors_le {asked : List Uuid}
    (answers : ∀ next ∈ found, ∃ id ∈ asked, next.predecessor = some id) :
    (withSuccessors found rows).length ≤ rows.length + asked.length := by
  obtain ⟨injected, equal, _, few⟩ := exists_withSuccessors found rows
  obtain ⟨nodup, subset⟩ := newestByPredecessor_keys found
  have askedKeys : (newestByPredecessor found).map Prod.fst ⊆ asked.map some := by
    intro key keyMem
    obtain ⟨next, nextMem, rfl⟩ := mem_map.mp (subset keyMem)
    obtain ⟨id, idMem, isKey⟩ := answers next nextMem
    exact mem_map.mpr ⟨id, idMem, isKey.symm⟩
  have fewer := (nodup.subperm askedKeys).length_le
  rw [length_map, length_map] at fewer
  rw [equal, length_append]
  exact Nat.add_le_add_left (few.trans fewer) _

theorem length_lookupIds_le (rows : List Hit) : (lookupIds rows).length ≤ rows.length := by
  rw [lookupIds, length_take, outdatedIds, length_map]
  exact (Nat.min_le_right _ _).trans (length_filter_le _ _)

/-- With a lookup that answers for the ids it is asked, the rows at most double. -/
theorem length_withSuccessors_lookup_le
    {findSuccessors : List Uuid → Option (List FoundSuccessor)}
    (answers : ∀ ids found, findSuccessors ids = some found →
      ∀ next ∈ found, ∃ id ∈ ids, next.predecessor = some id) (rows : List Hit) :
    (withSuccessors (successors findSuccessors rows) rows).length ≤ 2 * rows.length := by
  have answered : ∀ next ∈ successors findSuccessors rows,
      ∃ id ∈ lookupIds rows, next.predecessor = some id := by
    intro next nextMem
    unfold successors at nextMem
    split at nextMem
    · cases nextMem
    · cases found : findSuccessors (lookupIds rows) with
      | none =>
        rw [found] at nextMem
        cases nextMem
      | some found' =>
        rw [found] at nextMem
        exact answers _ _ found next nextMem
  calc (withSuccessors (successors findSuccessors rows) rows).length
      ≤ rows.length + (lookupIds rows).length := length_withSuccessors_le answered
    _ ≤ rows.length + rows.length := Nat.add_le_add_left (length_lookupIds_le rows) _
    _ = 2 * rows.length := (Nat.two_mul _).symm

end Injection

/-! ## The lookup of storage -/

/-- What storage reports for the ids, under the other arguments of a query. -/
def foundSuccessors (createdAtText : Row → String) (memories : Memories) (conflicts : Conflicts)
    (query : SuccessorQuery) (ids : List Uuid) : List FoundSuccessor :=
  (memoryFindSuccessors memories conflicts { query with supersedesIds := ids }).map fun pair =>
    { memory := pair.1, createdAt := createdAtText pair.1, successorOf := some pair.2 }

/-- Storage answers for the ids it is asked. -/
theorem foundSuccessors_answers (createdAtText : Row → String) (memories : Memories)
    (conflicts : Conflicts) (query : SuccessorQuery) (ids : List Uuid)
    (found : List FoundSuccessor)
    (isFound : some (foundSuccessors createdAtText memories conflicts query ids) = some found) :
    ∀ next ∈ found, ∃ id ∈ ids, next.predecessor = some id := by
  cases isFound
  intro next nextMem
  obtain ⟨pair, pairMem, rfl⟩ := mem_map.mp nextMem
  exact ⟨pair.2, mem_supersedesIds_of_memoryFindSuccessors pairMem, rfl⟩

/-! ## What the walk follows -/

section Relation

variable {recorded : List (Option Uuid × Uuid)}

/-- The row supersedes the one with the id, by its edge or by a record. -/
def Supersedes (recorded : List (Option Uuid × Uuid)) (row : Hit) (id : Uuid) : Prop :=
  row.memory.supersedesId = some id ∨ (some id, row.id) ∈ recorded

section

variable (distinct : (rows.map Hit.id).Nodup)

include distinct

variable {id : Uuid} {row : Hit}

theorem byId_eq_some_iff : byId rows id = some row ↔ row ∈ rows ∧ row.id = id := by
  constructor
  · intro found
    have rowMem := mem_of_find?_eq_some found
    exact ⟨mem_reverse.mp rowMem, by simpa using List.find?_some found⟩
  · rintro ⟨rowMem, rfl⟩
    cases found : byId rows row.id with
    | none =>
      have absent := List.find?_eq_none.mp found row (mem_reverse.mpr rowMem)
      simp at absent
    | some other =>
      have otherMem := mem_reverse.mp (mem_of_find?_eq_some found)
      have same : other.id = row.id := by simpa using List.find?_some found
      rw [inj_on_of_nodup_map distinct otherMem rowMem same]

theorem mem_presentPairs_iff : (id, row) ∈ presentPairs rows recorded ↔
      id ∈ rows.map Hit.id ∧ row ∈ rows ∧ (some id, row.id) ∈ recorded := by
  simp only [presentPairs, mem_filterMap, Option.bind_eq_bind, Option.bind_eq_some_iff,
    byId_eq_some_iff distinct, Option.some.injEq, Prod.mk.injEq]
  constructor
  · rintro ⟨⟨predecessor, successor⟩, pairMem, _, rfl, stale, ⟨staleMem, rfl⟩, _,
      ⟨rowMem, rfl⟩, rfl, rfl⟩
    exact ⟨mem_map_of_mem staleMem, rowMem, pairMem⟩
  · rintro ⟨present, rowMem, pairMem⟩
    obtain ⟨stale, staleMem, rfl⟩ := mem_map.mp present
    exact ⟨(some stale.id, row.id), pairMem, stale.id, rfl, stale, ⟨staleMem, rfl⟩, row,
      ⟨rowMem, rfl⟩, rfl, rfl⟩

theorem mem_succOf :
    row ∈ succOf rows recorded id ↔ row ∈ rows ∧ (row.memory.supersedesId = some id ∨
      (id ∈ rows.map Hit.id ∧ (some id, row.id) ∈ recorded)) := by
  have pairs : row ∈ ((presentPairs rows recorded).filter fun pair => pair.1 == id).map
      Prod.snd ↔ (id, row) ∈ presentPairs rows recorded := by
    simp
  rw [succOf, mem_append, mem_filter, beq_iff_eq, pairs, mem_presentPairs_iff distinct]
  tauto

theorem mem_succOf_iff (present : id ∈ rows.map Hit.id) :
    row ∈ succOf rows recorded id ↔ row ∈ rows ∧ Supersedes recorded row id := by
  rw [mem_succOf distinct]
  simp [present, Supersedes]

end

/-- The successors of a row among the results. -/
def successorsOf (rows : List Hit) (recorded : List (Option Uuid × Uuid)) (id : Uuid) :
    List Hit :=
  if id ∈ rows.map Hit.id then succOf rows recorded id else []

section

variable (distinct : (rows.map Hit.id).Nodup)

include distinct

theorem mem_successorsOf_iff {id : Uuid} {row : Hit} : row ∈ successorsOf rows recorded id ↔
      id ∈ rows.map Hit.id ∧ row ∈ rows ∧ Supersedes recorded row id := by
  unfold successorsOf
  split
  next present => rw [mem_succOf_iff distinct present, and_iff_right present]
  next absent => simp [absent]

/-- The walk along the successors ends. -/
theorem exists_walk (recorded : List (Option Uuid × Uuid)) :
    ∃ after, placeAll Hit.id (succOf rows recorded) rows = some after.reordered ∧
      Walks Hit.id (successorsOf rows recorded) State.start rows after := by
  have closed : ∀ id, ∀ row ∈ succOf rows recorded id, row ∈ rows :=
    fun id row rowMem => ((mem_succOf distinct).mp rowMem).1
  obtain ⟨after, placed, walks⟩ := exists_placeAll closed
  have same : ∀ id, id ∈ rows.map Hit.id →
      succOf rows recorded id = successorsOf rows recorded id :=
    fun id present => (if_pos present).symm
  refine ⟨after, placed, walks.congr same ?_ fun row rowMem => mem_map_of_mem rowMem⟩
  exact fun id _ row rowMem => mem_map_of_mem (closed id row rowMem)

/-- The reordering always ends, with a walk along the successors. -/
theorem exists_reorder (recorded : List (Option Uuid × Uuid)) :
    ∃ after, reorder rows recorded = some after.reordered ∧
      Walks Hit.id (successorsOf rows recorded) State.start rows after := by
  obtain ⟨after, placed, walks⟩ := exists_walk distinct recorded
  refine ⟨after, ?_, walks⟩
  unfold reorder
  split
  next unrelated =>
    -- Without a relation every row is first, and the walk keeps the order.
    simp only [Bool.and_eq_true, all_eq_true, Option.isNone_iff_eq_none,
      List.isEmpty_iff] at unrelated
    have noSuccessor : ∀ id, ∀ row ∈ successorsOf rows recorded id, false = true := by
      intro id row rowMem
      obtain ⟨present, stored, edge | record⟩ := (mem_successorsOf_iff distinct).mp rowMem
      · rw [unrelated.1 row stored] at edge
        cases edge
      · have pair := (mem_presentPairs_iff distinct).mpr ⟨present, stored, record⟩
        rw [unrelated.2] at pair
        cases pair
    have allFirst := walks.filter_reordered (fun _ => true)
      (fun id row rowMem => absurd (noSuccessor id row rowMem) Bool.false_ne_true) distinct
    simp [State.start] at allFirst
    rw [allFirst]
  · exact placed

end

end Relation

/-! ## The contract -/

section Contract

variable (rows : List Hit) (recorded : List (Option Uuid × Uuid))

/-- One of the rows, with the id `successor`, supersedes the one with the id `stale`. -/
def SupersededBy (stale successor : Uuid) : Prop :=
  ∃ row ∈ rows, row.id = successor ∧ Supersedes recorded row stale

/-- The order of the results.  The lists `before` and `rest` are what stands above and
below a row. -/
structure SuccessorsAbove (results : List Hit) : Prop where
  above : ∀ before stale rest, results = before ++ stale :: rest →
    ∀ successor ∈ results, Supersedes recorded successor stale.id → successor ∈ before
  immediately : ∀ before stale between successor rest,
    rows = before ++ stale :: between ++ successor :: rest →
    Supersedes recorded successor stale.id →
    (∀ other ∈ rows, Supersedes recorded other stale.id → other = successor) →
    (∀ other ∈ rows, Supersedes recorded successor other.id → other = stale) →
      ∃ before rest, results = before ++ successor :: stale :: rest
  unchanged : ∀ isFirst : Hit → Bool,
    (∀ row ∈ rows, isFirst row = true → ∀ stale ∈ rows, ¬ Supersedes recorded row stale.id) →
      results.filter isFirst = rows.filter isFirst

variable {rows recorded} {after : State Hit Uuid} (distinct : (rows.map Hit.id).Nodup)
  (walks : Walks Hit.id (successorsOf rows recorded) State.start rows after)

include distinct walks

theorem perm_of_walks : after.reordered.Perm rows :=
  walks.perm distinct fun _ _ rowMem => ((mem_successorsOf_iff distinct).mp rowMem).2.1

variable {before rest between : List Hit} {stale successor : Hit}

theorem above_of_walks (acyclic : ∀ id, ¬ Relation.TransGen (SupersededBy rows recorded) id id)
    (split : after.reordered = before ++ stale :: rest)
    (successorMem : successor ∈ after.reordered)
    (supersedes : Supersedes recorded successor stale.id) : successor ∈ before := by
  have perm := perm_of_walks distinct walks
  have ordered : Ordered Hit.id (successorsOf rows recorded) after.reordered := by
    refine walks.ordered (fun id circle => ?_) entered_start ?_
    · refine acyclic id (Relation.TransGen.mono ?_ _ _ circle)
      rintro stale other ⟨row, rowMem, isOther⟩
      obtain ⟨_, stored, supersedes⟩ := (mem_successorsOf_iff distinct).mp rowMem
      exact ⟨row, stored, isOther, supersedes⟩
    · intro before row rest split
      exact absurd split.symm (by simp [State.start])
  have staleMem : stale ∈ rows :=
    perm.mem_iff.mp (split ▸ mem_append_right _ (.head _))
  have stored : successor ∈ rows := perm.mem_iff.mp successorMem
  have led : successor ∈ successorsOf rows recorded stale.id :=
    (mem_successorsOf_iff distinct).mpr ⟨mem_map_of_mem staleMem, stored, supersedes⟩
  obtain ⟨other, otherMem, same⟩ := mem_map.mp (ordered before stale rest split successor led)
  have otherStored : other ∈ rows := perm.mem_iff.mp (split ▸ mem_append_left _ otherMem)
  exact inj_on_of_nodup_map distinct otherStored stored same ▸ otherMem

theorem immediately_of_walks (split : rows = before ++ stale :: between ++ successor :: rest)
    (supersedes : Supersedes recorded successor stale.id)
    (sole : ∀ other ∈ rows, Supersedes recorded other stale.id → other = successor)
    (alone : ∀ other ∈ rows, Supersedes recorded successor other.id → other = stale) :
    ∃ before rest, after.reordered = before ++ successor :: stale :: rest := by
  have perm := perm_of_walks distinct walks
  have inj := inj_on_of_nodup_map distinct
  have staleMem : stale ∈ rows := by simp [split]
  have successorMem : successor ∈ rows := by simp [split]
  have disjoint : ((before ++ stale :: between).map Hit.id).Disjoint
      ((successor :: rest).map Hit.id) := by
    have nodup := distinct
    rw [split, map_append] at nodup
    exact (nodup_append'.mp nodup).2.2
  have apart : successor.id ≠ stale.id := by
    intro same
    refine disjoint (a := stale.id) (mem_map_of_mem (by simp)) ?_
    rw [← same]
    exact mem_map_of_mem (.head _)
  have soleNext : Sole Hit.id (successorsOf rows recorded) stale.id successor.id := by
    refine ⟨?_, ?_, ?_, apart⟩
    · exact ne_nil_of_mem ((mem_successorsOf_iff distinct).mpr
        ⟨mem_map_of_mem staleMem, successorMem, supersedes⟩)
    · intro row rowMem
      obtain ⟨_, stored, supersedes⟩ := (mem_successorsOf_iff distinct).mp rowMem
      rw [sole row stored supersedes]
    · intro id row rowMem isSuccessor
      obtain ⟨present, stored, supersedes⟩ := (mem_successorsOf_iff distinct).mp rowMem
      obtain ⟨other, otherMem, rfl⟩ := mem_map.mp present
      rw [alone other otherMem (inj stored successorMem isSuccessor ▸ supersedes)]
  have later : ∀ first row last, rows = first ++ row :: last → row.id = successor.id →
      stale.id ∈ first.map Hit.id := by
    intro first row last other isSuccessor
    have rowMem : row ∈ rows := by simp [other]
    cases inj rowMem successorMem isSuccessor
    -- The same row splits the list twice, so what stands before it is the same.
    rcases append_eq_append_iff.mp (other.symm.trans split) with
      ⟨extra, equal, tail⟩ | ⟨extra, equal, _⟩
    · cases extra with
      | nil =>
        rw [append_nil] at equal
        rw [← equal]
        simp
      | cons head extra =>
        cases (List.cons.inj tail).1
        rw [equal] at disjoint
        exact (disjoint (a := successor.id) (by simp) (by simp)).elim
    · rw [equal]
      simp
  obtain ⟨above, first, second, below, equal, isSuccessor, isStale⟩ :=
    walks.adjacent soleNext later (mem_map_of_mem staleMem)
  have firstMem : first ∈ rows := perm.mem_iff.mp (by simp [equal])
  have secondMem : second ∈ rows := perm.mem_iff.mp (by simp [equal])
  rw [inj firstMem successorMem isSuccessor, inj secondMem staleMem isStale] at equal
  exact ⟨above, below, equal⟩

theorem unchanged_of_walks {isFirst : Hit → Bool} (first : ∀ row ∈ rows, isFirst row = true →
      ∀ stale ∈ rows, ¬ Supersedes recorded row stale.id) :
    after.reordered.filter isFirst = rows.filter isFirst := by
  have perm := perm_of_walks distinct walks
  have byKey : ∀ row ∈ rows, (rows.any fun other => other.id == row.id && isFirst other) =
      isFirst row := by
    intro row rowMem
    rw [Bool.eq_iff_iff, any_eq_true]
    constructor
    · rintro ⟨other, otherMem, selected⟩
      rw [Bool.and_eq_true, beq_iff_eq] at selected
      exact inj_on_of_nodup_map distinct otherMem rowMem selected.1 ▸ selected.2
    · intro selected
      exact ⟨row, rowMem, by simp [selected]⟩
  have kept := walks.filter_reordered
    (fun id => rows.any fun other => other.id == id && isFirst other)
    (by
      intro id row rowMem
      obtain ⟨present, stored, supersedes⟩ := (mem_successorsOf_iff distinct).mp rowMem
      obtain ⟨stale, staleMem, rfl⟩ := mem_map.mp present
      rw [byKey row stored, Bool.eq_false_iff]
      exact fun selected => first row stored selected stale staleMem supersedes)
    distinct
  have results : after.reordered.filter isFirst = after.reordered.filter fun row =>
      rows.any fun other => other.id == row.id && isFirst other :=
    filter_congr fun row rowMem => (byKey row (perm.mem_iff.mp rowMem)).symm
  rw [results, kept]
  simp only [State.start, Finset.notMem_empty, not_false_eq_true, decide_true, Bool.and_true]
  exact filter_congr byKey

end Contract

/-- The successor ordering of the results.  The step always ends with a permutation of the
rows and the injected successors, which are at most as many as the rows; and if the rows
supersede each other in no circle, successors stand above what they supersede. -/
theorem successors_stand_above (findSuccessors : List Uuid → Option (List FoundSuccessor))
    (filteredRows : List Hit) (distinct : (filteredRows.map Hit.id).Nodup)
    (answers : ∀ ids found, findSuccessors ids = some found →
      ∀ next ∈ found, ∃ id ∈ ids, next.predecessor = some id) :
    ∃ injected results, withSuccessors (successors findSuccessors filteredRows) filteredRows =
        filteredRows ++ injected ∧
      (∀ hit ∈ injected, hit.injected = true) ∧
      (loadAndSerialize findSuccessors filteredRows).1 = some results ∧
      results.Perm (filteredRows ++ injected) ∧
      results.length ≤ 2 * filteredRows.length ∧
      ((∀ id, ¬ Relation.TransGen (SupersededBy (filteredRows ++ injected)
          (recordedPairs (successors findSuccessors filteredRows))) id id) →
        SuccessorsAbove (filteredRows ++ injected)
          (recordedPairs (successors findSuccessors filteredRows)) results) := by
  obtain ⟨injected, rowsEq, label, _⟩ :=
    exists_withSuccessors (successors findSuccessors filteredRows) filteredRows
  have rowsDistinct :=
    nodup_withSuccessors distinct (successors findSuccessors filteredRows)
  obtain ⟨after, reordered, walks⟩ := exists_reorder rowsDistinct
    (recordedPairs (successors findSuccessors filteredRows))
  have few := length_withSuccessors_lookup_le answers filteredRows
  have perm := perm_of_walks rowsDistinct walks
  refine ⟨injected, after.reordered, rowsEq, label, reordered, rowsEq ▸ perm, ?_, fun acyclic => ?_⟩
  · rwa [perm.length_eq]
  · rw [← rowsEq] at acyclic ⊢
    exact {
      above := fun _ _ _ split _ successorMem supersedes =>
        above_of_walks rowsDistinct walks acyclic split successorMem supersedes
      immediately := fun _ _ _ _ _ split supersedes sole alone =>
        immediately_of_walks rowsDistinct walks split supersedes sole alone
      unchanged := fun _ first => unchanged_of_walks rowsDistinct walks first }

/-- The lookup of the store with one record. -/
def newerLookup (ids : List Uuid) : Option (List FoundSuccessor) :=
  some (foundSuccessors (fun _ => "") staleStore (newerRecord true) staleQuery ids)

/-- The demoted memory as it was found. -/
def staleHit : Hit :=
  { memory := staleRow }

/-- Its winner, put in by the search. -/
def newerHit : Hit :=
  { memory := newerRow, injected := true }

theorem supersededBy_newer {stale successor : Uuid}
    (superseded : SupersededBy [staleHit, newerHit] [(some (.ofNat 1), .ofNat 2)] stale
      successor) : stale = .ofNat 1 ∧ successor = .ofNat 2 := by
  obtain ⟨row, rowMem, rfl, edge | record⟩ := superseded
  · rcases mem_pair.mp rowMem with rfl | rfl
    · cases edge
    · cases edge
  · have same := mem_singleton.mp record
    rwa [Prod.mk.injEq, Option.some.injEq] at same

/-- The demoted memory is returned right below the winner that its record names. -/
theorem successors_stand_above_recorded :
    (loadAndSerialize newerLookup [staleHit]).1 = some [newerHit, staleHit] ∧
      SuccessorsAbove [staleHit, newerHit] [(some (.ofNat 1), .ofNat 2)] [newerHit, staleHit] := by
  obtain ⟨injected, results, rowsEq, _, returned, _, _, ordered⟩ := successors_stand_above
    newerLookup [staleHit] (nodup_singleton _)
    (foundSuccessors_answers (fun _ => "") staleStore (newerRecord true) staleQuery)
  cases returned
  rw [← rowsEq] at ordered
  refine ⟨rfl, ordered ?_⟩
  intro id circle
  obtain ⟨_, first, _⟩ := Relation.TransGen.head'_iff.mp circle
  obtain ⟨_, _, last⟩ := Relation.TransGen.tail'_iff.mp circle
  have same := (supersededBy_newer first).1.symm.trans (supersededBy_newer last).2
  exact absurd same (by decide)

end Caura.Search
