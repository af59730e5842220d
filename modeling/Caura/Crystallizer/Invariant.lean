import Caura.Crystallizer.Run

/-!
# The invariant of a crystallizer run

A run changes the memories in two ways only: it creates rows for facts, under new ids,
and it archives rows that it has read at the start.  So whatever the services answer, a
row of the start is as it was or archived, a new row was created for a fact, and a row
that stands behind an answer stays live until the run itself archives it.
-/

namespace Caura.Crystallizer

open Caura.Memory Caura.Relation Caura.Value List Table

/-- The run has archived the row with the id. -/
def Progress.Archives (progress : Progress) (id : Uuid) : Prop :=
  ∃ record ∈ progress.records, id ∈ record.archived

/-! ## Archiving -/

/-- A replaced cluster has a created fact and none that failed. -/
theorem isReplaced_iff {outcomes : List (Fact × FactOutcome)} : isReplaced outcomes = true ↔
      (∃ entry ∈ outcomes, ∃ row, entry.2 = .created row) ∧
        ∀ entry ∈ outcomes, entry.2 ≠ .failed := by
  unfold isReplaced
  rw [Bool.and_eq_true, any_eq_true, Bool.not_eq_true', any_eq_false]
  constructor
  · rintro ⟨⟨entry, entryMem, isCreated⟩, noneFailed⟩
    refine ⟨⟨entry, entryMem, ?_⟩, ?_⟩
    · cases outcome : entry.2 with
      | created row => exact ⟨row, rfl⟩
      | duplicate row | failed => simp [outcome] at isCreated
    · intro other otherMem failed
      exact noneFailed other otherMem (by simp [failed])
  · rintro ⟨⟨entry, entryMem, row, isCreated⟩, noneFailed⟩
    refine ⟨⟨entry, entryMem, by simp [isCreated]⟩, ?_⟩
    intro other otherMem failed
    apply noneFailed other otherMem
    cases outcome : other.2 with
    | created row | duplicate row => simp [outcome] at failed
    | failed => rfl

section Archive

variable {memories : Memories} {archived : List Uuid} {row : Row}

/-- A row after the archive is an archived row, or one that was not asked for. -/
theorem mem_archiveRows (rowMem : row ∈ archiveRows memories archived) :
    (row.id ∈ archived ∧ row.live = false) ∨ (row.id ∉ archived ∧ row ∈ memories) := by
  obtain ⟨before, beforeMem, rfl⟩ := mem_modify_iff.mp rowMem
  split
  next asked =>
    refine .inl ⟨contains_iff_mem.mp asked, ?_⟩
    exact Bool.and_false _
  next asked => exact .inr ⟨fun idMem => asked (contains_iff_mem.mpr idMem), beforeMem⟩

theorem mem_archiveRows_of_not_mem (rowMem : row ∈ memories) (spared : row.id ∉ archived) :
    row ∈ archiveRows memories archived := by
  refine mem_modify_iff.mpr ⟨row, rowMem, ?_⟩
  rw [if_neg fun asked => spared (contains_iff_mem.mp asked)]

theorem id_mem_archiveRows {id : Uuid} :
    id ∈ (archiveRows memories archived).rows.map Row.id ↔ id ∈ memories.rows.map Row.id := by
  rw [archiveRows, map_key_modify]

end Archive

/-! ## The invariant of a run -/

/-- What holds after any number of clusters: the rows read at the start are still there,
as they were unless they are archived; only they are archived, and archived rows are not
live; the row behind an answer is still there and live unless the run has archived it;
and the new rows are those created for facts. -/
structure Sound (job : Job) (progress : Progress) : Prop where
  present : ∀ id ∈ job.memories.rows.map Row.id, id ∈ progress.memories.rows.map Row.id
  unchanged : ∀ row ∈ job.memories, ¬ progress.Archives row.id → row ∈ progress.memories
  added : ∀ row ∈ progress.memories, row.id ∉ job.memories.rows.map Row.id →
    ∃ record ∈ progress.records, ∃ entry ∈ record.outcomes, entry.2 = .created row
  known : ∀ id, progress.Archives id → id ∈ job.memories.rows.map Row.id
  dead : ∀ row ∈ progress.memories, progress.Archives row.id → row.live = false
  carried : ∀ record ∈ progress.records, ∀ entry ∈ record.outcomes, ∀ row,
    entry.2.carrier = some row → ¬ progress.Archives row.id →
      row ∈ progress.memories ∧ row.live = true
  created : ∀ record ∈ progress.records, ∀ entry ∈ record.outcomes, ∀ row,
    entry.2 = .created row → row.id ∉ job.memories.rows.map Row.id

section Sound

variable {job : Job} {progress : Progress}

theorem sound_start (job : Job) :
    Sound job { memories := job.memories, calls := 0, records := [] } where
  present := fun _ present => present
  unchanged := fun _ rowMem _ => rowMem
  added := fun _ rowMem new => absurd (mem_map_of_mem rowMem) new
  known := fun _ archives => by
    obtain ⟨_, recordMem, _⟩ := archives
    cases recordMem
  dead := fun _ _ archives => by
    obtain ⟨_, recordMem, _⟩ := archives
    cases recordMem
  carried := nofun
  created := nofun

variable {record : ClusterRecord} {memories written : Memories} {calls : Nat}

theorem archives_append_iff {id : Uuid} :
    Progress.Archives ⟨memories, calls, progress.records ++ [record]⟩ id ↔
      progress.Archives id ∨ id ∈ record.archived := by
  constructor
  · rintro ⟨other, otherMem, archived⟩
    rcases mem_append.mp otherMem with old | new
    · exact .inl ⟨other, old, archived⟩
    · rw [mem_singleton.mp new] at archived
      exact .inr archived
  · rintro (⟨other, otherMem, archived⟩ | archived)
    · exact ⟨other, mem_append_left _ otherMem, archived⟩
    · exact ⟨record, mem_append_right _ (.head _), archived⟩

/-- Writing the facts of a cluster and archiving rows read at the start keeps it. -/
theorem Sound.write (sound : Sound job progress) {crystal : Fact → Crystal} {facts : List Fact}
    (wrote : Wrote job.tenantId crystal progress.memories facts written record.outcomes)
    (readAtStart : ∀ id ∈ record.archived, id ∈ job.memories.rows.map Row.id) :
    Sound job ⟨archiveRows written record.archived, calls, progress.records ++ [record]⟩ := by
  have grown : ∀ id ∈ progress.memories.rows.map Row.id, id ∈ written.rows.map Row.id := by
    intro id idMem
    obtain ⟨row, rowMem, rfl⟩ := mem_map.mp idMem
    exact mem_map_of_mem (wrote.kept row rowMem)
  refine ⟨?_, ?_, ?_, ?_, ?_, ?_, ?_⟩
  · intro id idMem
    exact id_mem_archiveRows.mpr (grown id (sound.present id idMem))
  · intro row rowMem spared
    rw [archives_append_iff, not_or] at spared
    exact mem_archiveRows_of_not_mem (wrote.kept row (sound.unchanged row rowMem spared.1)) spared.2
  · intro row rowMem new
    rcases mem_archiveRows rowMem with ⟨archived, _⟩ | ⟨_, isWritten⟩
    · exact absurd (readAtStart row.id archived) new
    · rcases wrote.added row isWritten with old | isCreated
      · obtain ⟨other, otherMem, isCreated⟩ := sound.added row old new
        exact ⟨other, mem_append_left _ otherMem, isCreated⟩
      · exact ⟨record, mem_append_right _ (.head _), isCreated⟩
  · intro id archives
    rcases archives_append_iff.mp archives with early | late
    · exact sound.known id early
    · exact readAtStart id late
  · intro row rowMem archives
    rcases mem_archiveRows rowMem with ⟨_, gone⟩ | ⟨spared, isWritten⟩
    · exact gone
    · have early := (archives_append_iff.mp archives).resolve_right spared
      -- A row with the id of one read at the start is not among those just created.
      have old := (wrote.added row isWritten).resolve_right fun ⟨entry, entryMem, isCreated⟩ =>
        (wrote.created entry entryMem row isCreated).1 (sound.present _ (sound.known _ early))
      exact sound.dead row old early
  · intro other otherMem entry entryMem row isCarrier spared
    rw [archives_append_iff, not_or] at spared
    have isWritten : row ∈ written ∧ row.live = true := by
      rcases mem_append.mp otherMem with early | late
      · obtain ⟨stored, live⟩ :=
          sound.carried other early entry entryMem row isCarrier spared.1
        exact ⟨wrote.kept row stored, live⟩
      · rw [mem_singleton.mp late] at entryMem
        exact wrote.carried entry entryMem row isCarrier
    exact ⟨mem_archiveRows_of_not_mem isWritten.1 spared.2, isWritten.2⟩
  · refine forall_mem_append.mpr ⟨sound.created, forall_mem_singleton.mpr ?_⟩
    intro entry entryMem row isCreated idMem
    exact (wrote.created entry entryMem row isCreated).1 (sound.present _ idMem)

/-- Recording a cluster without a write keeps the invariant. -/
theorem Sound.idle (sound : Sound job progress) (calls : Nat) (outcomes : record.outcomes = [])
    (archived : record.archived = []) :
    Sound job ⟨progress.memories, calls, progress.records ++ [record]⟩ := by
  have wrote : Wrote job.tenantId (job.crystal []) progress.memories [] progress.memories
      record.outcomes := outcomes ▸ writeFacts_wrote job.services _ _ calls _ []
  have unarchived : archiveRows progress.memories record.archived = progress.memories := by
    rw [archived]
    exact modify_eq_self _ (by simp)
  exact unarchived ▸ sound.write wrote (by simp [archived])

/-- The invariant holds at the end of every run. -/
theorem sound_of_run (job : Job) : Sound job job.runCrystallization := by
  apply job.invariant_of_run (Sound job) (sound_start job)
  intro progress cluster _ sound
  rcases job.processCluster_cases progress cluster with
    ⟨record, calls, processed, _, _, _, outcomes, archived⟩ | ⟨asked, facts, processed, extracted⟩
  · rw [processed]
    exact sound.idle calls outcomes archived
  · have counted : Sound job { progress with calls := progress.calls + 1 } :=
      ⟨sound.present, sound.unchanged, sound.added, sound.known, sound.dead, sound.carried,
        sound.created⟩
    obtain ⟨record, written, calls, writes, wrote, _, recorded⟩ :=
      job.writeCluster_spec { progress with calls := progress.calls + 1 } cluster asked extracted
    rw [processed, writes]
    apply counted.write wrote
    intro id archived
    obtain ⟨source, retirable, rfl⟩ := (recorded.mem_archived_iff.mp archived).source
    exact mem_map_of_mem (job.mem_clusterMemories (mem_of_mem_filter retirable)).2.1

end Sound

end Caura.Crystallizer
