import Caura.Contradiction.UndoWrites

/-!
# Undoing one of two verdicts

A contested loser is beaten twice: by two edges, or by an edge and a record.
Whatever undoes one of the verdicts should leave it demoted for the other.

Everything that ends in `revertUnheldLoser` does, because the edge that is still
there is looked at first.  The two writes that follow an edge do not look: the
edit of a winner revives the row its edge named, and the retraction of an edge
reverts the row it pointed at.  The theorem covers the four ways of undoing, and
says that the loser stays demoted exactly when the verdict undone is not its
edge.
-/

namespace Caura.Contradiction

open Caura.Relation Caura.Value Caura.Memory Table

/-! ## Two verdicts, one undone -/

/-- What the ways of undoing read besides the table. -/
structure Setting where
  text : TextOps
  now : Timestamp
  enabled : Bool
  clears : Row → Row → Bool
  conflicts : Conflicts
  tenantId : String

/-- The ways to undo a verdict. -/
inductive Undo where
  | edit (winnerId : Uuid) (content : String)
  | retractEdge (trigger : Row)
  | retractUnlinked (trigger : Row)
  | revertUnheld (loser : Row) (ignore : Conflict → Bool)

/-- The table after an undo. -/
def Undo.apply (setting : Setting) (memories : Memories) : Undo → Memories
  | .edit winnerId content =>
    editContent setting.now memories setting.conflicts setting.tenantId winnerId content
  | .retractEdge trigger =>
    (attemptEntityRetraction setting.text setting.now setting.enabled
      setting.clears memories trigger).1
  | .retractUnlinked trigger =>
    (retractUnlinkedVerdicts setting.text setting.now setting.enabled
      setting.clears memories setting.conflicts trigger).1
  | .revertUnheld loser ignore =>
    (revertUnheldLoser setting.now memories setting.conflicts setting.tenantId loser ignore).1

/-- A row of the tenant that can be read and beats the loser. -/
structure Beater (setting : Setting) (memories : Memories) (winner loser : Row) :
    Prop where
  mem : winner ∈ memories
  tenantId_eq : winner.tenantId = setting.tenantId
  readable : winner.readable = true
  distinct : winner.id ≠ loser.id
  defeats : Defeats setting.conflicts setting.tenantId winner loser

/-- A demoted row that two rows beat, at least one of them by its edge. -/
structure Contested (setting : Setting) (memories : Memories)
    (loser first second : Row) : Prop where
  mem : loser ∈ memories
  tenantId_eq : loser.tenantId = setting.tenantId
  undeleted : loser.deletedAt = none
  contradicted : loser.contradicted = true
  firstBeats : Beater setting memories first loser
  secondBeats : Beater setting memories second loser
  distinct : first.id ≠ second.id
  edge : first.supersedesId = some loser.id ∨ second.supersedesId = some loser.id

/-- The undo is of one verdict: an edit changes the text of the first winner and
deletes neither winner with it, and a retraction is triggered by a row of the
tenant. -/
def Undo.Single (setting : Setting) (memories : Memories) (first second : Row) : Undo → Prop
  | .edit winnerId content =>
    winnerId = first.id ∧ content ≠ first.content ∧
      editRemoves memories setting.tenantId first.id first = false ∧
      editRemoves memories setting.tenantId first.id second = false
  | .retractEdge trigger => trigger ∈ memories ∧ trigger.tenantId = setting.tenantId
  | .retractUnlinked trigger => trigger.tenantId = setting.tenantId
  | .revertUnheld _ _ => True

/-- The undo follows the loser's edge: the edited winner's edge names it, or the
retraction is of an edge to it.  A loser derived from the edited winner goes with
its text. -/
def Undo.FollowsEdge (setting : Setting) (memories : Memories) (loser first : Row) : Undo → Prop
  | .edit _ _ =>
    first.supersedesId = some loser.id ∨
      editRemoves memories setting.tenantId first.id loser = true
  | .retractEdge trigger =>
    RetractsEdgeTo setting.text setting.enabled setting.clears memories trigger loser
  | .retractUnlinked _ | .revertUnheld _ _ => False

namespace Contested

variable {setting : Setting} {memories : Memories} {loser first second : Row}

theorem heldByEdge (contested : Contested setting memories loser first second) :
    HeldByEdge memories setting.tenantId loser := by
  have undeleted : ∀ winner, Beater setting memories winner loser → winner.deletedAt = none := by
    intro winner beater
    have readable := beater.readable
    simp only [Row.readable, Bool.and_eq_true, Option.isNone_iff_eq_none] at readable
    exact readable.1
  refine ⟨⟨loser, lookup_key contested.mem, rfl⟩, ?_⟩
  rcases contested.edge with edge | edge
  · exact ⟨first, lookup_key contested.firstBeats.mem,
      contested.firstBeats.tenantId_eq, undeleted first contested.firstBeats, edge⟩
  · exact ⟨second, lookup_key contested.secondBeats.mem,
      contested.secondBeats.tenantId_eq, undeleted second contested.secondBeats, edge⟩

theorem edit_keeps_iff (contested : Contested setting memories loser first second)
    {content : String} (changes : content ≠ first.content)
    (firstStays : editRemoves memories setting.tenantId first.id first = false)
    (secondStays : editRemoves memories setting.tenantId first.id second = false) :
    HasStatus (editContent setting.now memories setting.conflicts setting.tenantId
        first.id content) loser.id loser.status ↔
      first.supersedesId ≠ some loser.id ∧
        editRemoves memories setting.tenantId first.id loser = false := by
  have firstFound : getMemory memories first.id setting.tenantId = some first :=
    getMemory_eq_some_iff.mpr ⟨lookup_key contested.firstBeats.mem,
      contested.firstBeats.tenantId_eq, contested.firstBeats.readable⟩
  refine editContent_keeps_iff firstFound changes
    firstStays contested.mem contested.firstBeats.distinct.symm contested.tenantId_eq
    contested.undeleted contested.contradicted fun noEdge => ?_
  have readable := contested.secondBeats.readable
  simp only [Row.readable, Bool.and_eq_true, Option.isNone_iff_eq_none] at readable
  exact ⟨second, contested.secondBeats.mem, contested.distinct.symm, secondStays,
    contested.secondBeats.tenantId_eq, readable.1,
    contested.edge.resolve_left noEdge⟩

end Contested

/-- Undoing one of the verdicts on a contested row leaves the row demoted exactly
when the verdict is not undone by following the row's edge. -/
theorem contested_stays_demoted_iff {setting : Setting} {memories : Memories}
    {loser first second : Row}
    (contested : Contested setting memories loser first second) (undo : Undo)
    (single : undo.Single setting memories first second) :
    HasStatus (undo.apply setting memories) loser.id loser.status ↔
      ¬ undo.FollowsEdge setting memories loser first := by
  cases undo with
  | edit winnerId content =>
    obtain ⟨rfl, changes, firstStays, secondStays⟩ := single
    rw [Undo.apply, contested.edit_keeps_iff changes firstStays secondStays,
      Undo.FollowsEdge, not_or, Bool.not_eq_true]
  | retractEdge trigger =>
    exact attemptEntityRetraction_keeps_iff setting.now single.1 contested.mem
      (single.2.trans contested.tenantId_eq.symm) contested.undeleted
      contested.contradicted
  | retractUnlinked trigger =>
    refine iff_of_true ?_ id
    unfold Undo.apply retractUnlinkedVerdicts
    dsimp only
    split
    · refine (retractUnlinkedLoop_preserves
        (HeldByEdge · setting.tenantId loser) setting.text setting.clears ?_ _ 0 0
        memories contested.heldByEdge).status
      intro memories target ignore held
      rw [show trigger.tenantId = setting.tenantId from single]
      exact held.revertUnheldLoser setting.now setting.conflicts target ignore
    · exact contested.heldByEdge.status
  | revertUnheld target ignore =>
    exact iff_of_true (contested.heldByEdge.revertUnheldLoser setting.now
      setting.conflicts target ignore).status id

/-! ## Two edges to one row -/

/-- The demoted row. -/
def contestedRow : Row :=
  { id := .ofNat 1, tenantId := "t", agentId := "a", status := .outdated,
    createdAt := some 10 }

/-- A newer row whose edge names it. -/
def linkedWinner (id : Uuid) (created : Timestamp) : Row :=
  { id := id, tenantId := "t", agentId := "a", content := "old text",
    createdAt := some created, supersedesId := some (.ofNat 1) }

/-- A newer row that only a record names. -/
def recordedWinner : Row :=
  { id := .ofNat 4, tenantId := "t", agentId := "a", content := "old text",
    createdAt := some 40 }

/-- The row, two winners by edge and one by record. -/
def contestedMemories : Memories :=
  ⟨[contestedRow, linkedWinner (.ofNat 2) 20, linkedWinner (.ofNat 3) 30, recordedWinner],
    by decide⟩

/-- The record, and a judge that clears every pair. -/
def contestedSetting : Setting where
  text := .ascii
  now := 50
  enabled := true
  clears := fun _ _ => true
  conflicts :=
    ⟨[{ id := .ofNat 9, tenantId := "t", newMemoryId := .ofNat 4,
        oldMemoryId := .ofNat 1, effectApplied := some true, createdAt := 41 }],
      by decide⟩
  tenantId := "t"

theorem linkedWinner_beats (winner : Row)
    (isLinked : winner = linkedWinner (.ofNat 2) 20 ∨ winner = linkedWinner (.ofNat 3) 30) :
    Beater contestedSetting contestedMemories winner contestedRow := by
  rcases isLinked with rfl | rfl <;>
    exact ⟨by simp [mem_def, contestedMemories], rfl, rfl, by decide, .inl rfl⟩

/-- Editing the winner that a record names leaves the row demoted. -/
theorem edit_of_recorded_winner_keeps_row :
    HasStatus ((Undo.edit (.ofNat 4) "new text").apply contestedSetting
      contestedMemories) (.ofNat 1) .outdated := by
  have beats : Beater contestedSetting contestedMemories recordedWinner contestedRow :=
    ⟨by simp [mem_def, contestedMemories], rfl, rfl, by decide, .inr (by decide)⟩
  have contested : Contested contestedSetting contestedMemories contestedRow
      recordedWinner (linkedWinner (.ofNat 2) 20) :=
    ⟨.head _, rfl, rfl, rfl, beats, linkedWinner_beats _ (.inl rfl), by decide, .inr rfl⟩
  refine (contested_stays_demoted_iff contested (.edit (.ofNat 4) "new text")
    ⟨rfl, by decide, by decide, by decide⟩).mpr ?_
  rintro (edge | removed)
  · exact absurd edge (by decide)
  · exact absurd removed (by decide)

/-- Editing one of the two winners by edge, or retracting its edge, revives the
row while the other edge still names it. -/
theorem edge_undone_revives_contested_row :
    Contested contestedSetting contestedMemories contestedRow (linkedWinner (.ofNat 2) 20)
        (linkedWinner (.ofNat 3) 30) ∧
      (∀ undo ∈ [Undo.edit (.ofNat 2) "new text", Undo.retractEdge (linkedWinner (.ofNat 2) 20)],
        undo.Single contestedSetting contestedMemories (linkedWinner (.ofNat 2) 20)
            (linkedWinner (.ofNat 3) 30) ∧
          HasStatus (undo.apply contestedSetting contestedMemories) (.ofNat 1) .active ∧
          linkedWinner (.ofNat 3) 30 ∈ undo.apply contestedSetting contestedMemories) := by
  refine ⟨?_, ?_⟩
  · exact ⟨.head _, rfl, rfl, rfl, linkedWinner_beats _ (.inl rfl), linkedWinner_beats _ (.inr rfl),
      by decide, .inl rfl⟩
  · intro undo undoMem
    rcases List.mem_pair.mp undoMem with rfl | rfl
    · exact ⟨⟨rfl, by decide, by decide, by decide⟩, ⟨_, rfl, rfl⟩, mem_def.mpr (by decide)⟩
    · exact ⟨⟨by simp [mem_def, contestedMemories], rfl⟩, ⟨_, rfl, rfl⟩, mem_def.mpr (by decide)⟩

end Caura.Contradiction
