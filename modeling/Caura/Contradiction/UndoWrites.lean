import Caura.Contradiction.Undo

/-!
# What the undo paths write

Reverting a loser writes at most one status, and only when no edge points at the
row.  So each loop of reverts keeps every property that one revert keeps, and a
row that an edge holds stays as it is.  A content edit and the retraction of an
edge also follow edges: for both, the lemmas here say exactly when a demoted row
keeps its status.
-/

namespace Caura.Contradiction

open Caura.Relation Caura.Value Caura.Memory Option Table

/-! ## What reverting a loser can do -/

variable {loser newMemory row memory : Row} {memories : Memories} {tenantId : String}
  {conflicts : Conflicts} {now : Timestamp} {content : String}

/-- Reverting writes at most one status, and only on a row without an edge to
it. -/
theorem revertUnheldLoser_preserves (Keeps : Memories → Prop)
    {ignore : Conflict → Bool} (keeps : Keeps memories)
    (written : findBySupersedesId memories tenantId loser.id = [] →
      Keeps (writeStatus memories loser.id tenantId .active)) :
    Keeps (revertUnheldLoser now memories conflicts tenantId loser ignore).1 := by
  unfold revertUnheldLoser
  split
  · exact keeps
  next unlinked =>
    split
    · exact keeps
    · cases getMemory memories loser.id tenantId with
      | none => exact keeps
      | some fresh =>
        dsimp only
        split
        · rw [memoryUpdateStatus_plain (by decide)]
          exact written (by simpa using unlinked)
        · exact keeps

/-- What every revert preserves, the retraction of unlinked verdicts does. -/
theorem retractUnlinkedLoop_preserves (Keeps : Memories → Prop) (text : TextOps)
    (clears : Row → Row → Bool) (preserved : ∀ memories loser ignore, Keeps memories →
      Keeps (revertUnheldLoser now memories conflicts newMemory.tenantId loser ignore).1)
    (records : List Conflict) (judged reverted : Nat) (memories : Memories)
    (keeps : Keeps memories) :
    Keeps (retractUnlinkedLoop text now clears conflicts newMemory records judged
      reverted memories).1 := by
  induction records generalizing judged reverted memories with
  | nil => exact keeps
  | cons record records ih =>
    unfold retractUnlinkedLoop
    cases unlinkedVerdict text memories newMemory record with
    | none => exact ih judged reverted memories keeps
    | some pair =>
      dsimp only
      generalize (if pair.2.id = newMemory.id then pair.1 else newMemory) = winner
      split
      · exact keeps
      · split
        · exact ih _ _ _ (preserved memories pair.2 _ keeps)
        · exact ih _ _ _ keeps

/-- What every revert preserves, the reverts after an edit do. -/
theorem revertUnlinkedLosers_preserves (Keeps : Memories → Prop) (winner : Row)
    (preserved : ∀ memories loser ignore, Keeps memories →
      Keeps (revertUnheldLoser now memories conflicts tenantId loser ignore).1)
    (keeps : Keeps memories) :
    Keeps (revertUnlinkedLosers now memories conflicts tenantId winner) := by
  unfold revertUnlinkedLosers
  generalize memoryConflictsList conflicts tenantId winner.id = records
  generalize ([] : List Uuid) = seen
  induction records generalizing seen memories with
  | nil => exact keeps
  | cons record records ih =>
    unfold revertUnlinkedLoop
    dsimp only
    split
    · exact ih keeps seen
    · apply ih
      cases getMemory memories (record.otherSide winner.id) tenantId with
      | none => exact keeps
      | some loser =>
        dsimp only
        split
        · exact preserved memories loser _ keeps
        · exact keeps

/-- Reverting the row an edge named writes at most that row's status. -/
theorem revertEdgeLoser_preserves (Keeps : Memories → Prop)
    {edge : Option Uuid} (keeps : Keeps memories)
    (written : ∀ supersededId, edge = some supersededId →
      Keeps (writeStatus memories supersededId tenantId .active)) :
    Keeps (revertEdgeLoser now memories tenantId edge) := by
  cases edge with
  | none => exact keeps
  | some supersededId =>
    simp only [revertEdgeLoser, revertSupersededRow]
    cases getMemory memories supersededId tenantId with
    | none => exact keeps
    | some superseded =>
      dsimp only
      split
      · rw [memoryUpdateStatus_plain (by decide)]
        exact written supersededId rfl
      · exact keeps

variable {supersededId memoryId id : Uuid}

/-- A demoted row that can be read is revived. -/
theorem revertEdgeLoser_of_contradicted (now : Timestamp)
    (found : getMemory memories supersededId tenantId = some row)
    (contradicted : row.contradicted = true) :
    revertEdgeLoser now memories tenantId (some supersededId) =
      writeStatus memories supersededId tenantId .active := by
  rw [revertEdgeLoser, revertSupersededRow, found]
  dsimp only
  rw [if_pos contradicted, memoryUpdateStatus_plain (by decide)]

/-! ## Three states of a row that the reverts keep -/

/-- The row has its demoted status, and an edge points at it. -/
structure HeldByEdge (memories : Memories) (tenantId : String) (loser : Row) :
    Prop where
  status : HasStatus memories loser.id loser.status
  edge : ∃ owner, memories.lookup owner.id = some owner ∧
    owner.tenantId = tenantId ∧ owner.deletedAt = none ∧
      owner.supersedesId = some loser.id

theorem HeldByEdge.writeStatus (held : HeldByEdge memories tenantId loser)
    (other : memoryId ≠ loser.id) (status : Status) :
    HeldByEdge (writeStatus memories memoryId tenantId status) tenantId loser where
  status := held.status.writeStatus tenantId fun idEq => absurd idEq other
  edge := by
    obtain ⟨owner, found, ownerTenant, undeleted, edge⟩ := held.edge
    by_cases written : writable memoryId tenantId owner = true
    · refine ⟨owner.setStatus status, ?_, ownerTenant, undeleted, edge⟩
      change (Memory.writeStatus ..).lookup owner.id = _
      rw [lookup_writeStatus, found, map_some, if_pos written]
    · refine ⟨owner, ?_, ownerTenant, undeleted, edge⟩
      rw [lookup_writeStatus, found, map_some, if_neg written]

theorem HeldByEdge.revertUnheldLoser (held : HeldByEdge memories tenantId loser) (now : Timestamp)
    (conflicts : Conflicts) (target : Row) (ignore : Conflict → Bool) :
    HeldByEdge (revertUnheldLoser now memories conflicts tenantId target ignore).1
      tenantId loser := by
  refine revertUnheldLoser_preserves (HeldByEdge · tenantId loser) held fun noEdge => ?_
  refine held.writeStatus (fun targetEq => ?_) _
  obtain ⟨owner, found, ownerTenant, undeleted, edge⟩ := held.edge
  have ownerMem : owner ∈ findBySupersedesId memories tenantId target.id := by
    rw [targetEq]
    exact mem_findBySupersedesId_iff.mpr
      ⟨(lookup_eq_some_iff.mp found).1, ownerTenant, edge, undeleted⟩
  rw [noEdge] at ownerMem
  contradiction

/-- An active row stays active: a revert writes no other status. -/
theorem active_revertUnheldLoser (active : HasStatus memories id .active) (now : Timestamp)
    (conflicts : Conflicts) (tenantId : String) (target : Row) (ignore : Conflict → Bool) :
    HasStatus (revertUnheldLoser now memories conflicts tenantId target ignore).1 id .active :=
  revertUnheldLoser_preserves (HasStatus · id .active) active fun _ =>
    active.writeStatus tenantId fun _ => rfl

/-- The row was deleted with its parent. -/
def Gone (memories : Memories) (id : Uuid) : Prop :=
  ∃ row, memories.lookup id = some row ∧ row.deletedAt.isSome = true ∧
    row.status = .deleted

theorem Gone.writeStatus (gone : Gone memories id) (memoryId : Uuid) (tenantId : String)
    (status : Status) : Gone (writeStatus memories memoryId tenantId status) id := by
  obtain ⟨row, found, isDeleted, statusEq⟩ := gone
  have unwritable : writable memoryId tenantId row = false := by
    simp [writable, Row.readable, isNone_eq_false_iff.mpr isDeleted]
  refine ⟨row, ?_, isDeleted, statusEq⟩
  rw [lookup_writeStatus, found, map_some, unwritable]
  rfl

theorem Gone.revertUnheldLoser (gone : Gone memories id) (now : Timestamp) (conflicts : Conflicts)
    (tenantId : String) (target : Row) (ignore : Conflict → Bool) :
    Gone (revertUnheldLoser now memories conflicts tenantId target ignore).1 id :=
  revertUnheldLoser_preserves (Gone · id) gone fun _ => gone.writeStatus ..

/-- A deleted row stays deleted through the reverts of an edit. -/
theorem Gone.edit (gone : Gone memories id) (now : Timestamp) (conflicts : Conflicts)
    (winner : Row) : Gone (revertUnlinkedLosers now
      (revertEdgeLoser now memories tenantId winner.supersedesId) conflicts tenantId
      winner) id := by
  refine revertUnlinkedLosers_preserves (Gone · id) winner (fun _ target ignore gone =>
      gone.revertUnheldLoser now conflicts tenantId target ignore) ?_
  exact revertEdgeLoser_preserves (Gone · id) gone fun _ _ => gone.writeStatus ..

/-! ## What an edit writes -/

/-- The row is derived from the edited memory, directly or through a child, and
goes with its text. -/
def editRemoves (memories : Memories) (tenantId : String) (parentId : Uuid) (row : Row) : Bool :=
  derivedRowsWhere tenantId [parentId] row ||
    derivedRowsWhere tenantId
      ((memories.select (derivedRowsWhere tenantId [parentId])).map Row.id) row

theorem lookup_softDeleteChildren (now : Timestamp) (memories : Memories)
    (tenantId : String) (parentId id : Uuid) :
    (softDeleteChildren now memories tenantId parentId).lookup id =
      (memories.lookup id).map fun row =>
        if editRemoves memories tenantId parentId row then goneRow now row
        else row := by
  have goneStays : ∀ taken row, derivedRowsWhere tenantId taken (goneRow now row) = false := by
    simp [derivedRowsWhere, goneRow]
  unfold softDeleteChildren Table.update
  dsimp only
  split
  next isEmpty =>
    rw [List.isEmpty_iff] at isEmpty
    rw [lookup_modify]
    congr 1
    funext row
    have noGrandchild : derivedRowsWhere tenantId [] row = false := by
      simp [derivedRowsWhere]
    simp [editRemoves, isEmpty, noGrandchild]
  · rw [lookup_modify, lookup_modify, map_map]
    congr 1
    funext row
    by_cases child : derivedRowsWhere tenantId [parentId] row = true
    · simp [editRemoves, child, goneStays]
    · simp [editRemoves, child]

theorem lookup_writeContent_of_ne (other : id ≠ memoryId) :
    (writeContent now memories tenantId memoryId content).lookup id =
      (memories.lookup id).map fun row =>
        if editRemoves memories tenantId memoryId row then goneRow now row
        else row := by
  rw [writeContent, lookup_modify, lookup_softDeleteChildren]
  cases found : memories.lookup id with
  | none => rfl
  | some row =>
    have idEq : row.id = id := (lookup_eq_some_iff.mp found).2
    have unmatched : row.id ≠ memoryId := idEq ▸ other
    by_cases removed : editRemoves memories tenantId memoryId row = true
    · simp [removed, goneRow]
    · simp [removed, unmatched]

/-- An edited memory that its own edit does not delete can be read afterwards. -/
theorem getMemory_writeContent (now : Timestamp) (content : String)
    (found : getMemory memories memoryId tenantId = some memory)
    (survives : editRemoves memories tenantId memoryId memory = false) :
    getMemory (writeContent now memories tenantId memoryId content) memoryId
      tenantId = some (editedRow content memory) := by
  obtain ⟨lookedUp, tenantEq, readable⟩ := getMemory_eq_some_iff.mp found
  have idEq : memory.id = memoryId := (lookup_eq_some_iff.mp lookedUp).2
  simp only [Row.readable, Bool.and_eq_true, bne_iff_ne, isNone_iff_eq_none] at readable
  have written : (writeContent now memories tenantId memoryId content).lookup
      memoryId = some (editedRow content memory) := by
    rw [writeContent, lookup_modify, lookup_softDeleteChildren, lookedUp]
    simp [survives, idEq, tenantEq, readable.1]
  refine getMemory_eq_some_iff.mpr ⟨written, tenantEq, ?_⟩
  simp only [Row.readable, editedRow, Bool.and_eq_true, bne_iff_ne, isNone_iff_eq_none]
  refine ⟨readable.1, ?_⟩
  split
  · decide
  · exact readable.2

/-! ## What a retraction of an edge reverts -/

/-- The retraction for the trigger is of an edge that points at the loser, and
nothing stops it: the trigger's own edge, or the only edge to the loser when the
loser is the trigger and has none itself. -/
def RetractsEdgeTo (text : TextOps) (enabled : Bool) (clears : Row → Row → Bool)
    (memories : Memories) (trigger loser : Row) : Prop :=
  enabled = true ∧
    (trigger.supersedesId = some loser.id ∧ trigger.id ≠ loser.id ∧
        rdfPassWouldMark text trigger loser true = false ∧
        clears trigger loser = true ∨
      trigger = loser ∧ loser.supersedesId = none ∧
        ∃ owner, findBySupersedesId memories loser.tenantId loser.id = [owner] ∧
          rdfPassWouldMark text loser owner false = false ∧
          clears owner loser = true)

section Retract

variable {text : TextOps} {enabled : Bool} {clears : Row → Row → Bool} {trigger : Row}
  {pair : Retraction}

/-- A retraction passed its gates, and its pair is the trigger with the row its
edge names or the trigger with the only row whose edge names it. -/
theorem resolveRetraction_eq_some
    (resolved : resolveRetraction text enabled clears memories trigger = some pair) :
    enabled = true ∧ pair.edgeOwner.id ≠ pair.candidate.id ∧
      clears pair.edgeOwner pair.candidate = true ∧
      (pair.edgeOwner = trigger ∧ trigger.supersedesId = some pair.candidate.id ∧
          getMemory memories pair.candidate.id trigger.tenantId = some pair.candidate ∧
          rdfPassWouldMark text trigger pair.candidate true = false ∨
        pair.candidate = trigger ∧ trigger.supersedesId = none ∧
          findBySupersedesId memories trigger.tenantId trigger.id = [pair.edgeOwner] ∧
          rdfPassWouldMark text trigger pair.edgeOwner false = false) := by
  unfold resolveRetraction at resolved
  split at resolved
  next isEnabled =>
    rcases filter_eq_some_iff.mp resolved with ⟨pairEq, gates⟩
    simp only [Retraction.open, Bool.and_eq_true, bne_iff_ne, Bool.not_eq_true'] at gates
    rcases gates with ⟨⟨⟨_, distinct⟩, unmarked⟩, cleared⟩
    refine ⟨isEnabled, distinct, cleared, ?_⟩
    unfold edgePair at pairEq
    split at pairEq
    next target edge =>
      rcases map_eq_some_iff.mp pairEq with ⟨candidate, found, rfl⟩
      have targetEq : candidate.id = target :=
        (lookup_eq_some_iff.mp (getMemory_eq_some_iff.mp found).1).2
      subst target
      simp only [edge] at unmarked
      exact .inl ⟨rfl, edge, found, unmarked⟩
    next noEdge =>
      split at pairEq
      next owner owners =>
        cases pairEq
        simp only [noEdge] at unmarked
        exact .inr ⟨rfl, noEdge, owners, unmarked⟩
      · contradiction
  · contradiction

/-- A retraction is about two distinct rows of the table. -/
theorem resolveRetraction_rows (triggerMem : trigger ∈ memories)
    (resolved : resolveRetraction text enabled clears memories trigger = some pair) :
    pair.candidate ∈ memories ∧ pair.edgeOwner ∈ memories ∧
      pair.edgeOwner.id ≠ pair.candidate.id := by
  rcases resolveRetraction_eq_some resolved with
    ⟨_, distinct, _, ⟨isOwner, _, found, _⟩ | ⟨isCandidate, _, owners, _⟩⟩
  · have lookedUp := (getMemory_eq_some_iff.mp found).1
    exact ⟨(lookup_eq_some_iff.mp lookedUp).1, isOwner ▸ triggerMem, distinct⟩
  · have ownerMem : pair.edgeOwner ∈ findBySupersedesId memories trigger.tenantId trigger.id :=
      owners ▸ (.head _)
    exact ⟨isCandidate ▸ triggerMem, (mem_findBySupersedesId_iff.mp ownerMem).1, distinct⟩

theorem resolveRetraction_candidate_iff (triggerMem : trigger ∈ memories)
    (loserMem : loser ∈ memories) (tenantEq : trigger.tenantId = loser.tenantId)
    (undeleted : loser.deletedAt = none) (contradicted : loser.contradicted = true) :
    (∃ pair, resolveRetraction text enabled clears memories trigger = some pair ∧
        pair.candidate.id = loser.id) ↔
      RetractsEdgeTo text enabled clears memories trigger loser := by
  have loserFound : getMemory memories loser.id trigger.tenantId = some loser :=
    getMemory_eq_some_iff.mpr ⟨lookup_key loserMem, tenantEq.symm,
      readable_of_contradicted undeleted contradicted⟩
  constructor
  · rintro ⟨pair, resolved, candidateId⟩
    rcases resolveRetraction_eq_some resolved with
      ⟨isEnabled, distinct, cleared, ⟨isOwner, edge, found, unmarked⟩ |
        ⟨isCandidate, noEdge, owners, unmarked⟩⟩
    · rw [candidateId, loserFound] at found
      cases found
      rw [isOwner] at distinct cleared
      exact ⟨isEnabled, .inl ⟨edge, distinct, unmarked, cleared⟩⟩
    · rw [isCandidate] at candidateId cleared
      have same : trigger = loser := eq_of_key_eq triggerMem loserMem candidateId
      subst same
      exact ⟨isEnabled, .inr ⟨rfl, noEdge, pair.edgeOwner, owners, unmarked, cleared⟩⟩
  · rintro ⟨isEnabled, ⟨edge, distinct, unmarked, cleared⟩ |
      ⟨rfl, noEdge, owner, owners, unmarked, cleared⟩⟩
    · refine ⟨⟨loser, trigger⟩, ?_, rfl⟩
      rw [resolveRetraction, if_pos isEnabled, filter_eq_some_iff]
      refine ⟨?_, ?_⟩
      · simp [edgePair, edge, loserFound]
      · simp [Retraction.open, undeleted, contradicted, edge, distinct, unmarked, cleared]
    · have ownerMem : owner ∈ findBySupersedesId memories trigger.tenantId trigger.id :=
        owners ▸ List.mem_cons_self
      have ownerEdge := (mem_findBySupersedesId_iff.mp ownerMem).2.2.1
      have distinct : owner.id ≠ trigger.id := by
        intro idEq
        have same := eq_of_key_eq (mem_findBySupersedesId_iff.mp ownerMem).1 triggerMem idEq
        rw [same, noEdge] at ownerEdge
        contradiction
      refine ⟨⟨trigger, owner⟩, ?_, rfl⟩
      rw [resolveRetraction, if_pos isEnabled, filter_eq_some_iff]
      refine ⟨?_, ?_⟩
      · simp [edgePair, noEdge, owners]
      · simp [Retraction.open, undeleted, contradicted, ownerEdge, distinct,
          noEdge, unmarked, cleared]

/-- A retraction leaves the loser's status alone exactly when it is not of an
edge to it. -/
theorem attemptEntityRetraction_keeps_iff (now : Timestamp)
    (triggerMem : trigger ∈ memories) (loserMem : loser ∈ memories)
    (tenantEq : trigger.tenantId = loser.tenantId)
    (undeleted : loser.deletedAt = none) (contradicted : loser.contradicted = true) :
    HasStatus (attemptEntityRetraction text now enabled clears memories trigger).1
        loser.id loser.status ↔
      ¬ RetractsEdgeTo text enabled clears memories trigger loser := by
  have stored : HasStatus memories loser.id loser.status :=
    ⟨loser, lookup_key loserMem, rfl⟩
  rw [← resolveRetraction_candidate_iff triggerMem loserMem tenantEq undeleted contradicted]
  unfold attemptEntityRetraction
  cases resolved : resolveRetraction text enabled clears memories trigger with
  | none => simpa using stored
  | some pair =>
    rcases resolveRetraction_rows triggerMem resolved with
      ⟨candidateMem, ownerMem, distinct⟩
    simp only [Option.some.injEq, exists_eq_left', revertCandidate_eq]
    by_cases isLoser : pair.candidate.id = loser.id
    · refine iff_of_false (fun demoted => ?_) (not_not_intro isLoser)
      rw [eq_of_key_eq candidateMem loserMem isLoser] at distinct demoted
      have loserFound : getMemory memories loser.id loser.tenantId = some loser :=
        getMemory_eq_some_iff.mpr ⟨lookup_key loserMem, rfl,
          readable_of_contradicted undeleted contradicted⟩
      refine (Row.status_ne_of_contradicted contradicted).2.1 (demoted.unique ?_)
      exact (hasStatus_writeStatus loserFound .active).retractSupersedes _ _
        fun ownerEq => absurd ownerEq distinct
    · refine iff_of_true ?_ isLoser
      apply HasStatus.retractSupersedes
      · exact stored.writeStatus _ fun candidateEq => absurd candidateEq isLoser
      · intro ownerEq
        rw [eq_of_key_eq ownerMem loserMem ownerEq]

end Retract

/-! ## The edit -/

section Edit

variable {winner : Row}

/-- The edit of a winner, as the writes it makes one after the other. -/
theorem editContent_eq
    (winnerFound : getMemory memories winner.id tenantId = some winner)
    (changes : content ≠ winner.content)
    (survives : editRemoves memories tenantId winner.id winner = false) :
    editContent now memories conflicts tenantId winner.id content = revertUnlinkedLosers now
        (revertEdgeLoser now (writeContent now memories tenantId winner.id content) tenantId
          winner.supersedesId)
        conflicts tenantId winner := by
  rw [editContent, winnerFound]
  simp only [if_neg changes, getMemory_writeContent now content winnerFound survives,
    isNone_some, Bool.false_eq_true, if_false]

section

variable (now content) (loserMem : loser ∈ memories)
  (distinct : loser.id ≠ winner.id)

include now content loserMem distinct

/-- The write of an edit gives a demoted row up only if the row was derived from
the edited memory. -/
theorem lookup_writeContent_loser (stays : editRemoves memories tenantId winner.id loser = false) :
    (writeContent now memories tenantId winner.id content).lookup loser.id = some loser := by
  rw [lookup_writeContent_of_ne distinct, lookup_key loserMem]
  simp [stays]

theorem gone_writeContent (removed : editRemoves memories tenantId winner.id loser = true) :
    Gone (writeContent now memories tenantId winner.id content) loser.id := by
  refine ⟨goneRow now loser, ?_, rfl, rfl⟩
  rw [lookup_writeContent_of_ne distinct, lookup_key loserMem]
  simp [removed]

end

/-- An edit leaves a row that another edge holds demoted exactly when the edited
row's own edge does not name it and the row does not go with the text. -/
theorem editContent_keeps_iff
    (winnerFound : getMemory memories winner.id tenantId = some winner)
    (changes : content ≠ winner.content)
    (survives : editRemoves memories tenantId winner.id winner = false)
    (loserMem : loser ∈ memories) (distinct : loser.id ≠ winner.id)
    (tenantEq : loser.tenantId = tenantId) (undeleted : loser.deletedAt = none)
    (contradicted : loser.contradicted = true)
    (held : winner.supersedesId ≠ some loser.id → ∃ owner, owner ∈ memories ∧ owner.id ≠ winner.id ∧
        editRemoves memories tenantId winner.id owner = false ∧
        owner.tenantId = tenantId ∧ owner.deletedAt = none ∧
        owner.supersedesId = some loser.id) :
    HasStatus (editContent now memories conflicts tenantId winner.id content)
        loser.id loser.status ↔
      winner.supersedesId ≠ some loser.id ∧
        editRemoves memories tenantId winner.id loser = false := by
  rcases Row.status_ne_of_contradicted contradicted with ⟨_, notActive, notDeleted⟩
  rw [editContent_eq winnerFound changes survives]
  by_cases removed : editRemoves memories tenantId winner.id loser = true
  · -- The row goes with the text, and nothing brings a deleted row back.
    refine iff_of_false (fun demoted => ?_) fun kept => by simp [removed] at kept
    have gone := gone_writeContent now content loserMem distinct removed
    rcases gone.edit now conflicts winner with ⟨row, found, _, isDeleted⟩
    exact notDeleted (demoted.unique ⟨row, found, isDeleted⟩)
  · rw [Bool.not_eq_true] at removed
    have written := lookup_writeContent_loser now content loserMem distinct removed
    by_cases edge : winner.supersedesId = some loser.id
    · -- The edge is followed, whatever else holds the row.
      refine iff_of_false (fun demoted => ?_) fun kept => kept.1 edge
      have found := getMemory_eq_some_iff.mpr
        ⟨written, tenantEq, readable_of_contradicted undeleted contradicted⟩
      rw [edge, revertEdgeLoser_of_contradicted now found contradicted] at demoted
      have active := revertUnlinkedLosers_preserves (HasStatus · loser.id .active) winner
        (fun _ target ignore active => active_revertUnheldLoser active now
          conflicts tenantId target ignore) (hasStatus_writeStatus found .active)
      exact notActive (demoted.unique active)
    · refine iff_of_true ?_ ⟨edge, removed⟩
      rcases held edge with
        ⟨owner, ownerMem, ownerNe, ownerStays, ownerTenant, ownerUndeleted, ownerEdge⟩
      have heldAfter : HeldByEdge (writeContent now memories tenantId winner.id
          content) tenantId loser :=
        ⟨⟨loser, written, rfl⟩, owner,
          lookup_writeContent_loser now content ownerMem ownerNe ownerStays,
          ownerTenant, ownerUndeleted, ownerEdge⟩
      refine (revertUnlinkedLosers_preserves (HeldByEdge · tenantId loser) winner
        (fun _ target ignore held =>
          held.revertUnheldLoser now conflicts target ignore) ?_).status
      refine revertEdgeLoser_preserves (HeldByEdge · tenantId loser) heldAfter ?_
      intro other otherEq
      exact heldAfter.writeStatus (fun otherLoser => edge (otherLoser ▸ otherEq)) _

end Edit

end Caura.Contradiction
