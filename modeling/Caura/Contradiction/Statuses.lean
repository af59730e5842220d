import Caura.Contradiction.Rdf
import Mathlib.Data.List.Dedup

/-!
# The statuses a pass writes

Two loops over the same candidates in different orders follow the same plan, and the trust
levels that the verdicts rest on do not depend on the order in which they are read.  So the
pass writes the same statuses, whatever the order of its candidates.
-/

namespace Caura.Contradiction

open Caura.Value Caura.Memory List

/-! ## The loop -/

section Loop

variable {kind : Kind} {newMemory : Row} {byAuthor : ByAuthor} {edge : Option Uuid}
  {done : List Candidate} {state next : LoopState} {found : Candidate}

/-- Plans for the same candidates under the same verdicts write the same statuses. -/
theorem Plans.statusOf_eq {byOther : ByAuthor} {others : List Candidate}
    (plans : Plans kind newMemory byAuthor edge done state)
    (otherPlans : Plans kind newMemory byOther edge others next) (same : done.Perm others)
    (verdicts : confirmed newMemory byAuthor = confirmed newMemory byOther) (id : Uuid) :
    statusOf next.updates id = statusOf state.updates id := by
  have sameNew : demotesNew newMemory byAuthor = demotesNew newMemory byOther := by
    funext found
    simp [demotesNew, verdicts]
  have sameLoser : demotesCandidate newMemory byAuthor = demotesCandidate newMemory byOther := by
    funext found
    simp [demotesCandidate, verdicts]
  by_cases isNew : id = newMemory.id
  · rw [isNew, otherPlans.new, plans.new, newStatus, newStatus, sameNew, sameLoser,
      same.any_eq, same.any_eq]
  · by_cases isRead : ∃ found ∈ done, found.row.id = id
    · obtain ⟨found, foundMem, rfl⟩ := isRead
      rw [plans.candidate found foundMem, otherPlans.candidate found (same.mem_iff.mp foundMem),
        candidateStatus, candidateStatus, sameNew, sameLoser]
    · have unread : ∀ found ∈ done, found.row.id ≠ id := fun found foundMem isFound =>
        isRead ⟨found, foundMem, isFound⟩
      rw [plans.other id isNew unread, otherPlans.other id isNew fun found foundMem =>
        unread found (same.mem_iff.mpr foundMem)]

end Loop

/-! ## The pass -/

/-- `rdf_updates`, after the loop. -/
def rdfUpdates (agents : Agents) (tenantId : String) (newMemory : Row) (supersedesId : Option Uuid)
    (rdfConflicts : List Row) : Updates :=
  (detectionLoop .rdf newMemory (trustByAuthor agents tenantId newMemory rdfConflicts) supersedesId
    (rdfConflicts.map fun row => { row := row })).updates

/-- They are what the pass flushes. -/
theorem rdfConflictPass_fst {text : TextOps} {agents : Agents} {now : Timestamp}
    {tenantId : String} {newMemory : Row} {supersedesId : Option Uuid} {rdfConflicts : List Row}
    {memories : Memories} (hasTriple : singleValueTriple text newMemory ≠ none) :
    (rdfConflictPass text agents now tenantId newMemory supersedesId rdfConflicts memories).1 =
      (flush now tenantId (rdfUpdates agents tenantId newMemory supersedesId rdfConflicts)
        memories).1 := by
  obtain ⟨triple, isTriple⟩ := Option.ne_none_iff_exists'.mp hasTriple
  simp only [rdfConflictPass, isTriple, rdfUpdates]
  split
  next flushEq => rw [flushEq]
  next flushEq => rw [flushEq]

/-- The status of a row once the updates are written. -/
def writtenStatus (updates : Updates) (row : Row) : Status :=
  (statusOf updates row.id).getD row.status

section Pass

variable {agents : Agents} {tenantId : String} {newMemory : Row}

theorem lookup_authorTrust (agentIds : List String) (agentId : String) :
    (authorTrust agents tenantId agentIds).lookup agentId =
      if agentId ∈ agentIds ∧ agentId ≠ "" then some ((agents tenantId agentId).getD 0)
      else none := by
  have keyed : ∀ ids : List String, (ids.map fun id => (id, (agents tenantId id).getD 0)).lookup
      agentId = if agentId ∈ ids then some ((agents tenantId agentId).getD 0) else none := by
    intro ids
    induction ids with
    | nil => rfl
    | cons id ids ih =>
      by_cases isId : agentId = id
      · simp [isId]
      · simp [lookup_cons, beq_false_of_ne isId, isId, ih]
  rw [authorTrust, keyed]
  simp only [mem_dedup, mem_filter, decide_eq_true_eq]

/-- The levels that were read do not depend on the order of the rows. -/
theorem confirmed_trustByAuthor_congr {rows shuffled : List Row} (same : rows.Perm shuffled) :
    confirmed newMemory (trustByAuthor agents tenantId newMemory rows) =
      confirmed newMemory (trustByAuthor agents tenantId newMemory shuffled) := by
  have levels : ∀ agentId, (trustByAuthor agents tenantId newMemory rows).lookup agentId =
      (trustByAuthor agents tenantId newMemory shuffled).lookup agentId := by
    intro agentId
    have sameAgents : agentId ∈ rows.map Row.agentId ↔ agentId ∈ shuffled.map Row.agentId :=
      (same.map Row.agentId).mem_iff
    simp only [trustByAuthor, same.isEmpty_eq]
    split
    · rfl
    · simp [lookup_authorTrust, sameAgents]
  have trusts : ∀ row, rowTrust row (trustByAuthor agents tenantId newMemory rows) =
      rowTrust row (trustByAuthor agents tenantId newMemory shuffled) := by
    intro row
    rw [rowTrust, rowTrust, levels]
  funext found
  rw [confirmed, confirmed, outranked, outranked, trusts, trusts]

/-- Each older candidate that is not outranked is outdated; the trigger is outdated if
some newer candidate is not outranked, and keeps its status otherwise; a newer candidate
keeps its own; a memory has one update and the trigger at most one edge; and no status
depends on the order of the candidates. -/
theorem statuses_ignore_order (agents : Agents) (tenantId : String) (newMemory : Row)
    (supersedesId : Option Uuid) (candidates : List Row)
    (distinct : ((newMemory :: candidates).map Row.id).Nodup) :
    let byAuthor := trustByAuthor agents tenantId newMemory candidates
    let updates := rdfUpdates agents tenantId newMemory supersedesId candidates
    (∀ row ∈ candidates, Older row newMemory → outranked row newMemory byAuthor = false →
      statusOf updates row.id = some .outdated) ∧
    writtenStatus updates newMemory =
      (if ∃ row ∈ candidates, Older newMemory row ∧ outranked newMemory row byAuthor = false then
        .outdated
      else newMemory.status) ∧
    (∀ row ∈ candidates, Older newMemory row → writtenStatus updates row = row.status) ∧
    (updates.rows.map Update.memoryId).Nodup ∧
    (updates.rows.filter fun update =>
      update.memoryId == newMemory.id && update.supersedesId.isSome).length ≤ 1 ∧
    ∀ shuffled : List Row, candidates.Perm shuffled → ∀ id,
      statusOf (rdfUpdates agents tenantId newMemory supersedesId shuffled) id =
        statusOf updates id := by
  intro byAuthor updates
  have plans : Plans .rdf newMemory byAuthor supersedesId (candidates.map fun row => { row := row })
      (detectionLoop .rdf newMemory byAuthor supersedesId _) :=
    plans_detectionLoop (by rwa [readRows_map])
  have older : ∀ row : Row, Older row newMemory → row.id ≠ newMemory.id →
      confirmed newMemory byAuthor { row := row } = !outranked row newMemory byAuthor := by
    intro row isOlder isOther
    rw [confirmed, loser_of_older isOlder, winner_of_older isOther isOlder]
  have newer : ∀ row : Row, Older newMemory row →
      confirmed newMemory byAuthor { row := row } = !outranked newMemory row byAuthor := by
    intro row isNewer
    rw [confirmed, loser_of_newer isNewer, winner_of_newer isNewer]
  have others : ∀ row ∈ candidates, row.id ≠ newMemory.id := fun row rowMem =>
    plans.distinct { row := row } (mem_map_of_mem rowMem)
  have written : ∀ row ∈ candidates, statusOf updates row.id =
      candidateStatus newMemory byAuthor .rdf { row := row } := fun row rowMem =>
    plans.candidate { row := row } (mem_map_of_mem rowMem)
  refine ⟨?_, ?_, ?_, updates.nodup, ?_, ?_⟩
  · intro row rowMem isOlder notOutranked
    rw [written row rowMem]
    simp [candidateStatus, demotesCandidate, older row isOlder (others row rowMem), isOlder,
      notOutranked, Kind.demoted]
  · have isDemoted : ((candidates.map fun row => ({ row := row } : Candidate)).any
        (demotesNew newMemory byAuthor)) = true ↔
        ∃ row ∈ candidates, Older newMemory row ∧ outranked newMemory row byAuthor = false := by
      simp only [any_map, any_eq_true, Function.comp, demotesNew, Bool.and_eq_true,
        decide_eq_true_eq]
      constructor
      · rintro ⟨row, rowMem, isConfirmed, isNewer⟩
        rw [newer row isNewer] at isConfirmed
        exact ⟨row, rowMem, isNewer, by simpa using isConfirmed⟩
      · rintro ⟨row, rowMem, isNewer, notOutranked⟩
        exact ⟨row, rowMem, by rw [newer row isNewer, notOutranked]; rfl, isNewer⟩
    have statusEq : statusOf updates newMemory.id = _ := plans.new
    simp only [writtenStatus, statusEq, newStatus, isDemoted]
    split
    · rfl
    · split <;> rfl
  · intro row rowMem isNewer
    rw [writtenStatus, written row rowMem]
    simp only [candidateStatus, demotesCandidate, isNewer.asymm, decide_false, Bool.and_false]
    split
    · contradiction
    · split <;> rfl
  · have atMostOne := nodup_iff_count_le_one.mp updates.nodup newMemory.id
    rw [List.count, countP_map, countP_eq_length_filter] at atMostOne
    refine Nat.le_trans (List.Sublist.length_le (monotone_filter_right _ ?_)) atMostOne
    intro update isEdge
    simp_all
  · intro shuffled same id
    have shuffledPlans : Plans .rdf newMemory (trustByAuthor agents tenantId newMemory shuffled)
        supersedesId (shuffled.map fun row => { row := row })
        (detectionLoop .rdf newMemory _ supersedesId _) :=
      plans_detectionLoop <| by
        rw [readRows_map]
        exact ((same.cons newMemory).map Row.id).nodup_iff.mp distinct
    exact plans.statusOf_eq shuffledPlans (same.map _) (confirmed_trustByAuthor_congr same) id

/-- A trigger between an older and a newer candidate is outdated. -/
theorem statuses_ignore_order_mixed :
    writtenStatus (rdfUpdates (fun _ _ => none) "t" (slotRow (.ofNat 2) 2 "b") none
      [slotRow (.ofNat 1) 1 "a", slotRow (.ofNat 3) 3 "c"]) (slotRow (.ofNat 2) 2 "b") =
        .outdated :=
  (statuses_ignore_order (fun _ _ => none) "t" (slotRow (.ofNat 2) 2 "b") none
    [slotRow (.ofNat 1) 1 "a", slotRow (.ofNat 3) 3 "c"] (by decide)).2.1.trans (if_pos (by decide))

end Pass

end Caura.Contradiction
