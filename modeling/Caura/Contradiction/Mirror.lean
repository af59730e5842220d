import Caura.Contradiction.Retraction

/-!
# The mirror of the triple query

Before a verdict is retracted, the core asks itself whether the triple pass would mark the
pair again, without asking storage.  The mirror and the query compare the same terms, each
with the text operations of its own runtime; where these agree, so do the two.
-/

namespace Caura.Contradiction

open Caura.Relation Caura.Value Caura.Memory

/-- On the texts of the two rows, the database folds case and drops white space and commas
as the core does.  The empty text has no case, and a predicate that holds one value is not
blank. -/
structure TextOps.Agree (text : TextOps) (newMemory other : Row) : Prop where
  predicate : ∀ spelling ∈ other.predicate, text.sqlLower spelling = text.lower spelling
  value : ∀ value, value ∈ newMemory.objectValue ∨ value ∈ other.objectValue →
    normalizedObject text value = rdfObjectKey text value
  empty : text.lower "" = ""
  blank : ∀ predicate ∈ newMemory.predicate, text.lower predicate ∈ singleValuePredicates →
    text.lower (text.strip predicate) ≠ ""

section Mirror

variable {text : TextOps} {newMemory other : Row} {subject : Uuid} {predicate value : String}

section

variable (agree : TextOps.Agree text newMemory other)
  (triple : singleValueTriple text newMemory = some (subject, predicate, value))

include triple

theorem of_singleValueTriple : predicate ∈ newMemory.predicate ∧ value ∈ newMemory.objectValue ∧
    text.lower predicate ∈ singleValuePredicates := by
  unfold singleValueTriple at triple
  split at triple
  next isSubject isPredicate isValue =>
    split at triple <;> cases triple
    next gate => exact ⟨isPredicate, isValue, List.contains_iff_mem.mp gate.2.2⟩
  · cases triple

include agree

/-- The spellings of a predicate that holds one value are not empty. -/
theorem empty_notMem_predicateCluster : "" ∉ predicateCluster text predicate := by
  obtain ⟨isPredicate, _, isSingle⟩ := of_singleValueTriple triple
  have noneEmpty : ∀ cluster ∈ predicateAliasClusters, "" ∉ cluster := by decide
  unfold predicateCluster
  dsimp only
  cases found : predicateAliasClusters.find? fun cluster =>
      cluster.contains (text.lower (text.strip predicate)) with
  | none =>
    intro isOnly
    exact agree.blank predicate isPredicate isSingle (List.mem_singleton.mp isOnly).symm
  | some cluster => exact noneEmpty cluster (List.mem_of_find?_eq_some found)

/-- The mirror and the terms of the query, with the status term left open. -/
theorem mirror_terms :
    (predicateCluster text predicate).contains (text.lower (other.predicate.getD "")) =
        (other.predicate.any fun spelling =>
          (predicateCluster text predicate).contains (text.sqlLower spelling)) ∧
      (other.objectValue.any fun otherValue =>
          rdfObjectKey text value != rdfObjectKey text otherValue) =
        other.objectValue.any fun otherValue =>
          normalizedObject text otherValue != normalizedObject text value := by
  constructor
  · cases isPredicate : other.predicate with
    | none =>
      have isAbsent := empty_notMem_predicateCluster agree triple
      simpa [agree.empty] using isAbsent
    | some spelling => simp [agree.predicate spelling isPredicate]
  · have sameValue := agree.value value (.inl (of_singleValueTriple triple).2.1)
    cases isOther : other.objectValue with
    | none => rfl
    | some otherValue => simp [sameValue, agree.value otherValue (.inr isOther), bne_comm]

/-- The mirror with a live row is the query's condition on it. -/
theorem mirror_eq_where (sameTenant : other.tenantId = newMemory.tenantId)
    (distinct : other.id ≠ newMemory.id) {isLoser : Bool} (asked : Row)
    (isAsked : asked = { other with status := asked.status })
    (live : Status.live.contains asked.status = (isLoser || Status.live.contains other.status)) :
    rdfPassWouldMark text newMemory other isLoser =
      (liveScope newMemory.tenantId newMemory.fleetId newMemory asked &&
        (newMemory.visibility == .other "" || tierScope newMemory asked) &&
        competes text subject predicate value asked) := by
  obtain ⟨sameSpelling, sameValue⟩ := mirror_terms agree triple
  simp only [rdfPassWouldMark, liveScope, tierScope, competes, fleetScope, Row.live]
  grind

end

/-- The mirror says what the pass would find: for a row as it is, and for a loser as it
will be once it is active again. -/
theorem mirror_agrees_with_query (text : TextOps) (newMemory other : Row)
    (agree : TextOps.Agree text newMemory other)
    (sameTenant : other.tenantId = newMemory.tenantId) (distinct : other.id ≠ newMemory.id) :
    (∀ memories : Memories, other ∈ memories → (rdfPassWouldMark text newMemory other false = true ↔
        other ∈ rdfCandidates text memories newMemory.tenantId newMemory)) ∧
    ∀ memories : Memories, ({ other with status := .active } : Row) ∈ memories →
      (rdfPassWouldMark text newMemory other true = true ↔
        { other with status := .active } ∈
          rdfCandidates text memories newMemory.tenantId newMemory) := by
  cases triple : singleValueTriple text newMemory with
  | none => simp [rdfPassWouldMark, rdfCandidates, triple]
  | some parts =>
    obtain ⟨subject, predicate, value⟩ := parts
    constructor
    · intro memories isStored
      rw [mirror_eq_where agree triple sameTenant distinct other rfl rfl]
      simp [rdfCandidates, triple, findRdfConflicts, Table.mem_select_iff, isStored]
    · intro memories isStored
      rw [mirror_eq_where agree triple sameTenant distinct { other with status := .active } rfl
        rfl]
      simp [rdfCandidates, triple, findRdfConflicts, Table.mem_select_iff, isStored]

/-- Two rows that give one attribute two values, in ASCII text. -/
theorem mirror_agrees_with_query_slot :
    rdfPassWouldMark .ascii (slotRow (.ofNat 1) 1 "Open") (slotRow (.ofNat 2) 2 "1,000") false =
        true ↔
      slotRow (.ofNat 2) 2 "1,000" ∈ rdfCandidates .ascii
        (Table.empty.insert (slotRow (.ofNat 2) 2 "1,000") List.not_mem_nil) "t"
        (slotRow (.ofNat 1) 1 "Open") := by
  refine (mirror_agrees_with_query .ascii (slotRow (.ofNat 1) 1 "Open")
    (slotRow (.ofNat 2) 2 "1,000") ⟨fun _ _ => rfl, fun _ _ => rfl, by decide, ?_⟩ rfl
    (by decide)).1 _ (List.mem_singleton_self _)
  rintro predicate ⟨⟩ _
  decide

end Mirror

end Caura.Contradiction
