import Caura.Contradiction.Pass
import Caura.Memory.Writes
import Mathlib.Data.List.Induction

/-!
# What a detection loop decides

For each candidate the loop names a loser, the older row of the pair, and
either confirms the pair or, when the winner's author is trusted less, disputes
it.  It merges its writes field by field in the order of the candidates, and may
write the trigger twice, once as a loser and once with its edge.  `Plans` says
which status each memory has in the merged updates after any prefix: the older
row of every confirmed pair is demoted, and every other write repeats the status
that was read.  None of this mentions the order.  `LoopInvariant` adds what is
recorded, and that every edge goes from a newer row to an older one under the
compare-and-set.
-/

namespace Caura.Contradiction

open Caura.Relation Caura.Value Caura.Memory List Table

/-! ## Verdicts -/

/-- The older row of a pair, which a confirmed verdict demotes. -/
def loser (newMemory : Row) (found : Candidate) : Row :=
  pickOlder found.row newMemory

/-- The row of a pair that is not the loser. -/
def winner (newMemory : Row) (found : Candidate) : Row :=
  if (loser newMemory found).id == newMemory.id then found.row else newMemory

/-- The verdict on the pair is applied rather than disputed. -/
def confirmed (newMemory : Row) (byAuthor : ByAuthor) (found : Candidate) : Bool :=
  !outranked (loser newMemory found) (winner newMemory found) byAuthor

/-- The pair as it is recorded. -/
def settled (kind : Kind) (found : Candidate) : Pair :=
  ⟨found.row, kind, found.confidence⟩

variable {found : Candidate} {newMemory : Row}

theorem loser_of_older (older : Older found.row newMemory) : loser newMemory found = found.row :=
  pickOlder_of_older older

theorem loser_of_newer (newer : Older newMemory found.row) : loser newMemory found = newMemory :=
  pickOlder_of_newer newer

theorem winner_of_older (distinct : found.row.id ≠ newMemory.id)
    (older : Older found.row newMemory) : winner newMemory found = newMemory := by
  simp [winner, loser_of_older older, distinct]

theorem winner_of_newer (newer : Older newMemory found.row) :
    winner newMemory found = found.row := by
  simp [winner, loser_of_newer newer]

/-! ## One iteration -/

/-- The state after the loser's status is merged. -/
def demote (kind : Kind) (older : Row) (state : LoopState) : LoopState :=
  { state with
    updates := mergeStatusUpdate state.updates
      { memoryId := older.id, status := kind.demoted } }

/-- The state after a confirmed pair is reported and noted for its record. -/
def note (kind : Kind) (found : Candidate) (direction : Direction)
    (state : LoopState) : LoopState :=
  { state with
    contradictions := state.contradictions ++ (contradictionInfo kind found.row direction).toList
    recordPairs := state.recordPairs ++ [settled kind found] }

variable {kind : Kind} {byAuthor : ByAuthor} {state : LoopState}

theorem considerCandidate_disputed (disputed : confirmed newMemory byAuthor found = false) :
    considerCandidate kind newMemory byAuthor state found =
      { state with disputed := state.disputed ++ [settled kind found] } := by
  have isOutranked : outranked (loser newMemory found) (winner newMemory found)
      byAuthor = true := by
    simpa [confirmed] using disputed
  exact if_pos isOutranked

theorem considerCandidate_canonical (isConfirmed : confirmed newMemory byAuthor found = true)
    (distinct : found.row.id ≠ newMemory.id) (older : Older found.row newMemory) :
    considerCandidate kind newMemory byAuthor state found = note kind found .canonical
        (linkCanonical kind newMemory found.row (demote kind found.row state)) := by
  have notOutranked : outranked found.row newMemory byAuthor = false := by
    simpa [confirmed, loser_of_older older, winner_of_older distinct older] using isConfirmed
  unfold considerCandidate
  simp [pickOlder_of_older older, distinct, notOutranked, note, demote, settled]

theorem considerCandidate_flipped (isConfirmed : confirmed newMemory byAuthor found = true)
    (newer : Older newMemory found.row) :
    considerCandidate kind newMemory byAuthor state found = note kind found .flipped
        (linkFlipped found.row newMemory (demote kind newMemory state)) := by
  have notOutranked : outranked newMemory found.row byAuthor = false := by
    simpa [confirmed, loser_of_newer newer, winner_of_newer newer] using isConfirmed
  unfold considerCandidate
  simp [pickOlder_of_newer newer, notOutranked, note, demote, settled]

/-! ## Merging -/

theorem lookup_mergeStatusUpdate (updates : Updates) (row : Update) (id : Uuid) :
    (mergeStatusUpdate updates row).lookup id =
      if row.memoryId = id then
        some (((updates.lookup id).map fun update =>
          mergeUpdate update row).getD row)
      else updates.lookup id := by
  unfold mergeStatusUpdate
  split
  next seen =>
    rw [lookup_modify]
    cases found : updates.lookup id with
    | none =>
      by_cases isRow : row.memoryId = id
      · rw [isRow] at seen
        exact absurd seen (lookup_eq_none_iff.mp found)
      · simp [isRow]
    | some update =>
      have updateId : update.memoryId = id :=
        (lookup_eq_some_iff.mp found).2
      by_cases isRow : row.memoryId = id
      · simp [isRow, updateId]
      · simp [isRow, updateId, Ne.symm isRow]
  next fresh =>
    rw [lookup_insert]
    by_cases isRow : row.memoryId = id
    · have absent : updates.lookup id = none :=
        lookup_eq_none_iff.mpr (isRow ▸ fresh)
      simp [absent]
    · simp [isRow]

/-- The updates put the demoted status on `id`. -/
def Demotes (kind : Kind) (updates : Updates) (id : Uuid) : Prop :=
  ∃ update, updates.lookup id = some update ∧ update.status = kind.demoted

/-! ## Statuses -/

section Verdicts

variable (newMemory : Row) (byAuthor : ByAuthor)

/-- The pair is applied and the trigger is its older row. -/
def demotesNew (found : Candidate) : Bool :=
  confirmed newMemory byAuthor found && decide (Older newMemory found.row)

/-- The pair is applied and the candidate is its older row. -/
def demotesCandidate (found : Candidate) : Bool :=
  confirmed newMemory byAuthor found && decide (Older found.row newMemory)

/-- The status written for the trigger, which had the edge. -/
def newStatus (kind : Kind) (edge : Option Uuid) (done : List Candidate) : Option Status :=
  if done.any (demotesNew newMemory byAuthor) then some kind.demoted
  else if edge.isNone && done.any (demotesCandidate newMemory byAuthor) then some newMemory.status
  else none

/-- The status written for a candidate. -/
def candidateStatus (kind : Kind) (found : Candidate) : Option Status :=
  if demotesCandidate newMemory byAuthor found then some kind.demoted
  else if demotesNew newMemory byAuthor found && found.row.supersedesId.isNone then
    some found.row.status
  else none

/-- The edge written for a memory: that of the trigger, if it had none, to the first candidate
it wins over, and that of a candidate that wins over the trigger and had none. -/
def plannedEdge (edge : Option Uuid) (done : List Candidate) (owner : Uuid) : Option Uuid :=
  if owner = newMemory.id then
    if edge.isNone then
      (done.find? (demotesCandidate newMemory byAuthor)).map fun found => found.row.id
    else none
  else if done.any fun found => demotesNew newMemory byAuthor found &&
      found.row.supersedesId.isNone && found.row.id == owner then some newMemory.id
  else none

end Verdicts

/-- The status that the updates write for a memory. -/
def statusOf (updates : Updates) (id : Uuid) : Option Status :=
  (updates.lookup id).map Update.status

theorem statusOf_mergeStatusUpdate (updates : Updates) (row : Update) (id : Uuid) :
    statusOf (mergeStatusUpdate updates row) id =
      if row.memoryId = id then some row.status else statusOf updates id := by
  unfold statusOf
  rw [lookup_mergeStatusUpdate]
  split
  · cases updates.lookup id <;> rfl
  · rfl

/-- The edge that the updates write for a memory. -/
def edgeOf (updates : Updates) (id : Uuid) : Option Uuid :=
  (updates.lookup id).bind Update.supersedesId

theorem edgeOf_mergeStatusUpdate (updates : Updates) (row : Update) (id : Uuid) :
    edgeOf (mergeStatusUpdate updates row) id =
      if row.memoryId = id then row.supersedesId.or (edgeOf updates id)
      else edgeOf updates id := by
  unfold edgeOf
  rw [lookup_mergeStatusUpdate]
  split
  · cases updates.lookup id <;> simp [mergeUpdate]
  · rfl

/-! ## The edges -/

section Edges

variable (kind : Kind) (newMemory newer older : Row) (state : LoopState)

theorem linkCanonical_isNone :
    (linkCanonical kind newMemory older state).supersedesId.isNone = false := by
  unfold linkCanonical
  split
  next hasEdge => simp [hasEdge]
  · rfl

theorem linkCanonical_kept :
    (linkCanonical kind newMemory older state).newMemoryIsOutdated = state.newMemoryIsOutdated ∧
      (linkCanonical kind newMemory older state).recordPairs = state.recordPairs ∧
      (linkCanonical kind newMemory older state).disputed = state.disputed := by
  unfold linkCanonical
  split <;> simp

theorem linkCanonical_updates (id : Uuid) :
    (statusOf (linkCanonical kind newMemory older state).updates id =
        if state.supersedesId.isNone ∧ newMemory.id = id then
          some (if state.newMemoryIsOutdated then kind.demoted else newMemory.status)
        else statusOf state.updates id) ∧
      edgeOf (linkCanonical kind newMemory older state).updates id =
        if state.supersedesId.isNone ∧ newMemory.id = id then some older.id
        else edgeOf state.updates id := by
  unfold linkCanonical
  split
  next hasEdge => simp [hasEdge]
  next noEdge => simp [noEdge, statusOf_mergeStatusUpdate, edgeOf_mergeStatusUpdate]

theorem linkFlipped_kept : (linkFlipped newer older state).supersedesId = state.supersedesId ∧
    (linkFlipped newer older state).newMemoryIsOutdated = true ∧
      (linkFlipped newer older state).recordPairs = state.recordPairs ∧
      (linkFlipped newer older state).disputed = state.disputed := by
  unfold linkFlipped
  split <;> simp

theorem linkFlipped_updates (id : Uuid) :
    (statusOf (linkFlipped newer older state).updates id =
        if newer.supersedesId.isNone ∧ newer.id = id then some newer.status
        else statusOf state.updates id) ∧
      edgeOf (linkFlipped newer older state).updates id =
        if newer.supersedesId.isNone ∧ newer.id = id then some older.id
        else edgeOf state.updates id := by
  unfold linkFlipped
  split
  next hasEdge => simp [hasEdge]
  next noEdge => simp [noEdge, statusOf_mergeStatusUpdate, edgeOf_mergeStatusUpdate]

end Edges

/-! ## The loop -/

/-- What the loop has decided after considering `done`. -/
structure Plans (kind : Kind) (newMemory : Row) (byAuthor : ByAuthor) (edge : Option Uuid)
    (done : List Candidate) (state : LoopState) : Prop where
  distinct : ∀ found ∈ done, found.row.id ≠ newMemory.id
  linked : state.supersedesId.isNone =
    (edge.isNone && !done.any (demotesCandidate newMemory byAuthor))
  outdated : state.newMemoryIsOutdated = done.any (demotesNew newMemory byAuthor)
  new : statusOf state.updates newMemory.id = newStatus newMemory byAuthor kind edge done
  candidate : ∀ found ∈ done,
    statusOf state.updates found.row.id = candidateStatus newMemory byAuthor kind found
  other : ∀ id, id ≠ newMemory.id → (∀ found ∈ done, found.row.id ≠ id) →
    statusOf state.updates id = none
  edges : ∀ owner, edgeOf state.updates owner = plannedEdge newMemory byAuthor edge done owner

variable {edge : Option Uuid} {done : List Candidate}

section Loop

variable {next : LoopState}

section

variable (plans : Plans kind newMemory byAuthor edge done state)
  (distinct : found.row.id ≠ newMemory.id) (unseen : ∀ other ∈ done, other.row.id ≠ found.row.id)

include plans distinct unseen

/-- An iteration that writes the trigger and the candidate as planned keeps the plan. -/
theorem Plans.extend (edgeEq : next.supersedesId.isNone =
      (state.supersedesId.isNone && !demotesCandidate newMemory byAuthor found))
    (outdatedEq : next.newMemoryIsOutdated =
      (state.newMemoryIsOutdated || demotesNew newMemory byAuthor found))
    (newEq : statusOf next.updates newMemory.id =
      newStatus newMemory byAuthor kind edge (done ++ [found]))
    (foundEq : statusOf next.updates found.row.id = candidateStatus newMemory byAuthor kind found)
    (kept : ∀ id, id ≠ newMemory.id → id ≠ found.row.id →
      statusOf next.updates id = statusOf state.updates id)
    (edges : ∀ owner, edgeOf next.updates owner =
      plannedEdge newMemory byAuthor edge (done ++ [found]) owner) :
    Plans kind newMemory byAuthor edge (done ++ [found]) next where
  distinct := forall_mem_append.mpr ⟨plans.distinct, forall_mem_singleton.mpr distinct⟩
  linked := by rw [edgeEq, plans.linked]; simp [Bool.and_assoc]
  outdated := by rw [outdatedEq, plans.outdated]; simp
  new := newEq
  candidate := by
    refine forall_mem_append.mpr ⟨fun other before => ?_, forall_mem_singleton.mpr foundEq⟩
    rw [kept _ (plans.distinct other before) (unseen other before)]
    exact plans.candidate other before
  other := by
    intro id notNew notSeen
    rw [kept id notNew fun isFound => notSeen found (by simp) isFound.symm]
    exact plans.other id notNew fun other otherMem =>
      notSeen other (mem_append_left _ otherMem)
  edges := edges

theorem Plans.step : Plans kind newMemory byAuthor edge (done ++ [found])
      (considerCandidate kind newMemory byAuthor state found) := by
  have absent : statusOf state.updates found.row.id = none :=
    plans.other found.row.id distinct unseen
  have newWritten := plans.new
  cases isConfirmed : confirmed newMemory byAuthor found with
  | false =>
    have notNew : demotesNew newMemory byAuthor found = false := by simp [demotesNew, isConfirmed]
    have notCandidate : demotesCandidate newMemory byAuthor found = false := by
      simp [demotesCandidate, isConfirmed]
    rw [considerCandidate_disputed isConfirmed]
    refine plans.extend distinct unseen ?_ ?_ ?_ ?_ (fun _ _ _ => rfl) ?_
    · simp [notCandidate]
    · simp [notNew]
    · simpa [newStatus, notNew, notCandidate] using newWritten
    · simpa [candidateStatus, notNew, notCandidate] using absent
    · simpa [plannedEdge, notNew, notCandidate] using plans.edges
  | true =>
    rcases older_or_older distinct with older | newer
    · have notNew : demotesNew newMemory byAuthor found = false := by
        simp [demotesNew, older.asymm]
      have isCandidate : demotesCandidate newMemory byAuthor found = true := by
        simp [demotesCandidate, isConfirmed, older]
      have linked := plans.linked
      rw [considerCandidate_canonical isConfirmed distinct older]
      refine plans.extend distinct unseen ?_ ?_ ?_ ?_ ?_ ?_
      · simp [note, linkCanonical_isNone, isCandidate]
      · simp [note, linkCanonical_kept, demote, notNew]
      · simp only [note, linkCanonical_updates, demote, statusOf_mergeStatusUpdate, newWritten,
          newStatus, plans.outdated]
        grind
      · simp [note, linkCanonical_updates, demote, statusOf_mergeStatusUpdate, candidateStatus,
          isCandidate, Ne.symm distinct]
      · intro id notNewId notFound
        simp [note, linkCanonical_updates, demote, statusOf_mergeStatusUpdate, Ne.symm notNewId,
          Ne.symm notFound]
      · intro owner
        have first : done.any (demotesCandidate newMemory byAuthor) =
            (done.find? (demotesCandidate newMemory byAuthor)).isSome := by
          rw [Bool.eq_iff_iff]
          simp
        simp only [note, linkCanonical_updates, demote, edgeOf_mergeStatusUpdate, plans.edges,
          plannedEdge, linked, first, find?_append, find?_singleton, isCandidate, any_append]
        cases done.find? (demotesCandidate newMemory byAuthor) <;> grind
    · have isNew : demotesNew newMemory byAuthor found = true := by
        simp [demotesNew, isConfirmed, newer]
      have notCandidate : demotesCandidate newMemory byAuthor found = false := by
        simp [demotesCandidate, newer.asymm]
      rw [considerCandidate_flipped isConfirmed newer]
      refine plans.extend distinct unseen ?_ ?_ ?_ ?_ ?_ ?_
      · simp [note, linkFlipped_kept, demote, notCandidate]
      · simp [note, linkFlipped_kept, isNew]
      · simp [note, linkFlipped_updates, demote, statusOf_mergeStatusUpdate, newStatus, isNew,
          distinct]
      · simp [note, linkFlipped_updates, demote, statusOf_mergeStatusUpdate, candidateStatus,
          isNew, notCandidate, Ne.symm distinct, absent]
      · intro id notNewId notFound
        simp [note, linkFlipped_updates, demote, statusOf_mergeStatusUpdate, Ne.symm notFound,
          Ne.symm notNewId]
      · intro owner
        simp only [note, linkFlipped_updates, demote, edgeOf_mergeStatusUpdate, plans.edges,
          plannedEdge]
        grind

end

theorem plans_nil : Plans kind newMemory byAuthor edge [] { supersedesId := edge } :=
  ⟨by simp, by simp, by simp, by simp [newStatus]; rfl, by simp, fun _ _ _ => rfl,
    fun _ => by simp [plannedEdge]; rfl⟩

end Loop

/-! ## Planned updates -/

/-- An update a loop may plan after reading `rows`: it writes the demoted
status or a status that was read, clears no edge, and sets one only from a
newer row to an older row, under the compare-and-set. -/
structure Planned (kind : Kind) (rows : List Row) (update : Update) : Prop where
  keepsEdge : update.unsetSupersedes = false
  expectsNone : update.expectedSupersedesId = none
  source : ∃ row ∈ rows, row.id = update.memoryId ∧
    (update.status = kind.demoted ∨ update.status = row.status)
  edge : ∀ target, update.supersedesId = some target →
    update.expectSupersedesNull = true ∧
      ∃ older ∈ rows, ∃ newer ∈ rows,
        older.id = target ∧ newer.id = update.memoryId ∧ Older older newer

variable {rows : List Row} {update later : Update}

theorem Planned.guarded (planned : Planned kind rows update) : update.Guarded where
  keepsEdge := planned.keepsEdge
  expectsNone := planned.expectsNone
  edge := fun target targetEq => (planned.edge target targetEq).1

theorem Planned.mono {rows' : List Row} (planned : Planned kind rows update)
    (subset : rows ⊆ rows') : Planned kind rows' update where
  keepsEdge := planned.keepsEdge
  expectsNone := planned.expectsNone
  source := by
    obtain ⟨row, rowMem, sourced⟩ := planned.source
    exact ⟨row, subset rowMem, sourced⟩
  edge := by
    intro target targetEq
    rcases planned.edge target targetEq with
      ⟨guarded, older, olderMem, newer, newerMem, joined⟩
    exact ⟨guarded, older, subset olderMem, newer, subset newerMem, joined⟩

theorem Planned.mergeUpdate (first : Planned kind rows update) (second : Planned kind rows later)
    (sameMemory : later.memoryId = update.memoryId) :
    Planned kind rows (mergeUpdate update later) where
  keepsEdge := by
    simp [Contradiction.mergeUpdate, first.keepsEdge, second.keepsEdge]
  expectsNone := by
    simp [Contradiction.mergeUpdate, first.expectsNone, second.expectsNone]
  source := by
    obtain ⟨row, rowMem, idEq, statusEq⟩ := second.source
    exact ⟨row, rowMem, idEq.trans sameMemory, statusEq⟩
  edge := by
    intro target targetEq
    cases laterEdge : later.supersedesId with
    | none =>
      have updateEdge : update.supersedesId = some target := by
        simpa [Contradiction.mergeUpdate, laterEdge] using targetEq
      obtain ⟨guarded, joined⟩ := first.edge target updateEdge
      exact ⟨by simp [Contradiction.mergeUpdate, guarded], joined⟩
    | some laterTarget =>
      have laterEq : later.supersedesId = some target := by
        simpa [Contradiction.mergeUpdate, laterEdge] using targetEq
      rcases second.edge target laterEq with
        ⟨guarded, older, olderMem, newer, newerMem, olderEq, newerEq, isOlder⟩
      exact ⟨by simp [Contradiction.mergeUpdate, guarded], older, olderMem,
        newer, newerMem, olderEq, newerEq.trans sameMemory, isOlder⟩

theorem planned_merge {updates : Updates} {row : Update}
    (planned : ∀ update ∈ updates, Planned kind rows update)
    (rowPlanned : Planned kind rows row) :
    ∀ update ∈ mergeStatusUpdate updates row, Planned kind rows update := by
  intro update updateMem
  have found := lookup_key updateMem
  rw [lookup_mergeStatusUpdate] at found
  split at found
  next isRow =>
    cases before : updates.lookup update.memoryId with
    | none =>
      have rowEq : row = update := by simpa [before] using found
      exact rowEq ▸ rowPlanned
    | some old =>
      have merged : Contradiction.mergeUpdate old row = update := by
        simpa [before] using found
      have oldMem := lookup_eq_some_iff.mp before
      exact merged ▸ (planned old oldMem.1).mergeUpdate rowPlanned (isRow.trans oldMem.2.symm)
  · exact planned update (lookup_eq_some_iff.mp found).1

/-! ## The loop invariant -/

/-- The rows a loop has read: its trigger and the candidates considered. -/
def readRows (newMemory : Row) (candidates : List Candidate) : List Row :=
  newMemory :: candidates.map Candidate.row

theorem readRows_map (newMemory : Row) (rows : List Row) :
    readRows newMemory (rows.map fun row => { row := row }) = newMemory :: rows := by
  simp [readRows, Function.comp_def]

/-- What a loop has accumulated after considering `done`. -/
structure LoopInvariant (kind : Kind) (newMemory : Row) (byAuthor : ByAuthor)
    (done : List Candidate) (state : LoopState) : Prop where
  recordPairs : state.recordPairs =
    (done.filter (confirmed newMemory byAuthor)).map (settled kind)
  disputed : state.disputed =
    (done.filter fun found => !confirmed newMemory byAuthor found).map
      (settled kind)
  planned : ∀ update ∈ state.updates,
    Planned kind (readRows newMemory done) update

theorem loopInvariant_nil (supersedesId : Option Uuid) :
    LoopInvariant kind newMemory byAuthor [] { supersedesId := supersedesId } where
  recordPairs := rfl
  disputed := rfl
  planned := by
    intro update updateMem
    simp [mem_def, Table.empty] at updateMem

variable {row older newer : Row}

/-- The update that demotes `row` is planned. -/
private theorem planned_demote (rowMem : row ∈ rows) :
    Planned kind rows { memoryId := row.id, status := kind.demoted } where
  keepsEdge := rfl
  expectsNone := rfl
  source := ⟨row, rowMem, rfl, .inl rfl⟩
  edge := by simp

/-- The update that wires `newer` to `older` is planned. -/
private theorem planned_link {status : Status} (olderMem : older ∈ rows) (newerMem : newer ∈ rows)
    (isOlder : Older older newer) (statusEq : status = kind.demoted ∨ status = newer.status) :
    Planned kind rows
      { memoryId := newer.id
        status := status
        supersedesId := some older.id
        expectSupersedesNull := true } where
  keepsEdge := rfl
  expectsNone := rfl
  source := ⟨newer, newerMem, rfl, statusEq⟩
  edge := by
    intro target targetEq
    have target_eq : older.id = target := by simpa using targetEq
    exact ⟨rfl, older, olderMem, newer, newerMem, target_eq, rfl, isOlder⟩

theorem readRows_append (newMemory : Row) (done : List Candidate) (found : Candidate) :
    readRows newMemory (done ++ [found]) = readRows newMemory done ++ [found.row] := by
  simp [readRows]

/-- The updates planned so far and the loser's demotion are planned. -/
private theorem planned_demoted (found : Candidate)
    (planned : ∀ update ∈ state.updates, Planned kind (readRows newMemory done) update)
    (olderMem : older ∈ readRows newMemory (done ++ [found])) :
    ∀ update ∈ (demote kind older state).updates,
      Planned kind (readRows newMemory (done ++ [found])) update := by
  refine planned_merge (fun update updateMem => (planned update updateMem).mono ?_)
    (planned_demote olderMem)
  rw [readRows_append]
  exact subset_append_left _ _

private theorem planned_linkCanonical (olderMem : older ∈ rows) (newMem : newMemory ∈ rows)
    (isOlder : Older older newMemory)
    (planned : ∀ update ∈ state.updates, Planned kind rows update) :
    ∀ update ∈ (linkCanonical kind newMemory older state).updates, Planned kind rows update := by
  unfold linkCanonical
  split
  · exact planned
  next =>
    -- The edge is written with the trigger's own status, which is the demoted
    -- one as soon as a flipped pair has made the trigger a loser.
    refine planned_merge planned (planned_link olderMem newMem isOlder ?_)
    split
    · exact .inl rfl
    · exact .inr rfl

private theorem planned_linkFlipped (newerMem : newer ∈ rows) (newMem : newMemory ∈ rows)
    (isOlder : Older newMemory newer)
    (planned : ∀ update ∈ state.updates, Planned kind rows update) :
    ∀ update ∈ (linkFlipped newer newMemory state).updates, Planned kind rows update := by
  unfold linkFlipped
  split
  · exact planned
  · exact planned_merge planned (planned_link newMem newerMem isOlder (.inr rfl))

/-- With the statuses as planned, the loser of every confirmed pair is demoted. -/
theorem Plans.demotes (plans : Plans kind newMemory byAuthor edge done state)
    (foundMem : found ∈ done) (isConfirmed : confirmed newMemory byAuthor found = true) :
    Demotes kind state.updates (loser newMemory found).id := by
  apply Option.map_eq_some_iff.mp
  rcases older_or_older (plans.distinct found foundMem) with older | newer
  · rw [loser_of_older older]
    exact (plans.candidate found foundMem).trans
      (if_pos (by simp [demotesCandidate, isConfirmed, older]))
  · rw [loser_of_newer newer]
    exact plans.new.trans (if_pos (any_eq_true.mpr
      ⟨found, foundMem, by simp [demotesNew, isConfirmed, newer]⟩))

/-- One more candidate keeps the invariant. -/
theorem LoopInvariant.step (inv : LoopInvariant kind newMemory byAuthor done state)
    (distinct : found.row.id ≠ newMemory.id) :
    LoopInvariant kind newMemory byAuthor (done ++ [found])
      (considerCandidate kind newMemory byAuthor state found) := by
  have newMem : newMemory ∈ readRows newMemory (done ++ [found]) := .head _
  have foundMem : found.row ∈ readRows newMemory (done ++ [found]) := by simp [readRows]
  cases isConfirmed : confirmed newMemory byAuthor found with
  | false =>
    rw [considerCandidate_disputed isConfirmed]
    refine ⟨?_, ?_, fun update updateMem => (inv.planned update updateMem).mono ?_⟩
    · simp [inv.recordPairs, isConfirmed]
    · simp [inv.disputed, isConfirmed]
    · rw [readRows_append]
      exact subset_append_left _ _
  | true =>
    rcases older_or_older distinct with older | newer
    · rw [considerCandidate_canonical isConfirmed distinct older]
      refine ⟨?_, ?_, planned_linkCanonical foundMem newMem older
        (planned_demoted found inv.planned foundMem)⟩
      · simp [note, linkCanonical_kept, demote, inv.recordPairs, isConfirmed]
      · simp [note, linkCanonical_kept, demote, inv.disputed, isConfirmed]
    · rw [considerCandidate_flipped isConfirmed newer]
      refine ⟨?_, ?_, planned_linkFlipped foundMem newMem newer
        (planned_demoted found inv.planned newMem)⟩
      · simp [note, linkFlipped_kept, demote, inv.recordPairs, isConfirmed]
      · simp [note, linkFlipped_kept, demote, inv.disputed, isConfirmed]

variable {candidates : List Candidate}

/-- What holds before the first candidate and is kept by each one that was not considered
before holds at the end of the loop. -/
theorem detectionLoop_induction {supersedesId : Option Uuid}
    (motive : List Candidate → LoopState → Prop)
    (nil : motive [] { supersedesId := supersedesId })
    (step : ∀ done state found, motive done state → found.row.id ≠ newMemory.id →
      (∀ other ∈ done, other.row.id ≠ found.row.id) →
        motive (done ++ [found]) (considerCandidate kind newMemory byAuthor state found))
    (distinct : ((readRows newMemory candidates).map Row.id).Nodup) :
    motive candidates (detectionLoop kind newMemory byAuthor supersedesId candidates) := by
  induction candidates using List.reverseRecOn with
  | nil => exact nil
  | append_singleton done found ih =>
    have split := nodup_append.mp (by
      simpa only [readRows_append, map_append] using distinct)
    have isolated : ∀ row ∈ readRows newMemory done, row.id ≠ found.row.id := fun row rowMem =>
      split.2.2 row.id (mem_map_of_mem rowMem) found.row.id (by simp)
    have before := ih split.1
    unfold detectionLoop at before ⊢
    rw [foldl_append]
    refine step done _ found before (isolated newMemory (.head _)).symm ?_
    intro other otherMem
    exact isolated other.row (.tail _ (mem_map_of_mem otherMem))

theorem plans_detectionLoop (distinct : ((readRows newMemory candidates).map Row.id).Nodup) :
    Plans kind newMemory byAuthor edge candidates
      (detectionLoop kind newMemory byAuthor edge candidates) := by
  refine detectionLoop_induction (Plans kind newMemory byAuthor edge) ?_
    (fun _ _ _ plans isOther unseen => plans.step isOther unseen) distinct
  exact plans_nil

/-- The invariant holds at the end of the loop, whatever the order of the
candidates. -/
theorem detectionLoop_invariant (distinct : ((readRows newMemory candidates).map Row.id).Nodup)
    (supersedesId : Option Uuid) : LoopInvariant kind newMemory byAuthor candidates
      (detectionLoop kind newMemory byAuthor supersedesId candidates) := by
  exact detectionLoop_induction (LoopInvariant kind newMemory byAuthor)
    (loopInvariant_nil supersedesId) (fun _ _ _ inv isOther _ => inv.step isOther) distinct

end Caura.Contradiction
