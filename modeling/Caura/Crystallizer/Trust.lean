import Caura.Crystallizer.Invariant
import Caura.Crystallizer.Pairs

/-!
# A crystal is bounded by its sources

A row that a run creates stands for all its sources at once.  It is in their fleet, is
readable by no one who could not read every one of them, and carries the least of their
trusts; and the sources that it retires are trusted no more than it is.  A derived row
keeps its recorded trust when a later run reads it, whatever became of its author, so the
bounds compose along crystals built from crystals.
-/

namespace Caura.Crystallizer

open Caura.Memory Caura.Relation Caura.Value List
open Caura.Hold (quarantineBelowTrust)

/-! ## Width -/

/-- `MEMORY_VISIBILITIES`, narrowest to widest. -/
def memoryVisibilities : List Visibility :=
  [.scopeAgent, .scopeTeam, .scopeOrg]

/-- How many visibilities are narrower. -/
def width (visibility : Visibility) : Nat :=
  memoryVisibilities.idxOf visibility

/-! ## Bounds -/

/-- The rows of every pair are in one fleet, which the run finds them in. -/
structure Job.JoinsFleets (job : Job) (fleetOf : Uuid → Option String) : Prop where
  pairs : ∀ pair ∈ job.pairs, fleetOf pair.1 = fleetOf pair.2
  rows : ∀ row ∈ job.memories, row.fleetId = fleetOf row.id

/-- A row that records the given trust is the crystal of a fact that the model read off
the sources, and these bound it. -/
structure Job.Bounded (job : Job) (record : ClusterRecord) (fact : Fact) (row : Row)
    (trust : Int) : Prop where
  isCrystal : ∃ id, row = (job.crystal record.sources fact).row job.tenantId id
  records : row.isInferred = true ∧ row.sourceTrust = some trust
  fleet : job.fleetId = none → ∀ source ∈ record.sources, row.fleetId = source.fleetId
  visibility : ∀ source ∈ record.sources, width row.visibility ≤ width source.visibility
  trust_le : ∀ source ∈ record.sources, trust ≤ job.trust source
  unheld : quarantineBelowTrust job.settings row.fleetId ≤ trust
  quoted : fact ∈ record.extraction.getD [] ∧ ∃ calls,
    record.extraction = crystallizeCluster (job.services.answer calls record.sources)
  cited : (job.crystal record.sources fact).crystallizedFrom = record.sources.map Row.id
  sources : ∀ source ∈ record.sources, source ∈ job.memories ∧ source.live = true ∧
    source.visibility ∈ sharedVisibilities
  retired : ∀ source ∈ job.memories, source.id ∈ record.archived →
    source ∈ record.sources ∧ job.trust source ≤ trust

section Sources

variable {job : Job} {sources : List Row} {source : Row}

theorem crystalTrust_le (sourceMem : source ∈ sources) :
    job.crystalTrust sources ≤ job.trust source := by
  have trustMem := mem_map_of_mem (f := job.trust) sourceMem
  unfold Job.crystalTrust
  cases least : (sources.map job.trust).min? with
  | none =>
    rw [List.min?_eq_none_iff] at least
    rw [least] at trustMem
    cases trustMem
  | some trust => exact (List.min?_eq_some_iff.mp least).2 _ trustMem

theorem width_crystalVisibility_le (sourceMem : source ∈ sources)
    (shared : source.visibility ∈ sharedVisibilities) :
    width (Job.crystalVisibility sources) ≤ width source.visibility := by
  unfold Job.crystalVisibility
  split
  next all =>
    rw [all_eq_true] at all
    rw [of_decide_eq_true (all source sourceMem)]
  · have widths : ∀ visibility ∈ sharedVisibilities, width .scopeTeam ≤ width visibility := by
      decide
    exact widths source.visibility shared

/-- Sources of one fleet give their crystal that fleet, if the run names none. -/
theorem crystalFleetId_eq (unnamed : job.fleetId = none) {fleetId : Option String}
    (same : ∀ other ∈ sources, other.fleetId = fleetId) (sourceMem : source ∈ sources) :
    job.crystalFleetId sources = fleetId := by
  unfold Job.crystalFleetId
  rw [unnamed]
  cases sources with
  | nil => cases sourceMem
  | cons first rest => exact same first (.head _)

theorem trust_le_of_retirable (retirable : source ∈ job.retirable sources) :
    source ∈ sources ∧ job.trust source ≤ job.crystalTrust sources := by
  obtain ⟨sourceMem, low⟩ := mem_filter.mp retirable
  exact ⟨sourceMem, of_decide_eq_true low⟩

/-- Sources that are not left alone are trusted at least to the hold level. -/
theorem quarantineBelowTrust_le (asked : job.leftAlone sources = false) :
    quarantineBelowTrust job.settings (job.crystalFleetId sources) ≤ job.crystalTrust sources := by
  unfold Job.leftAlone at asked
  rw [Bool.or_eq_false_iff, Bool.or_eq_false_iff] at asked
  exact not_lt.mp (of_decide_eq_false asked.1.2)

end Sources

/-! ## Created rows -/

section Created

variable {job : Job} {record : ClusterRecord} {fleetOf : Uuid → Option String}
  {first second source row : Row} (recordMem : record ∈ job.runCrystallization.records)

include recordMem

/-- The sources of a record are in one fleet. -/
theorem fleetId_eq_of_mem_sources (joins : job.JoinsFleets fleetOf)
    (firstMem : first ∈ record.sources)
    (secondMem : second ∈ record.sources) : first.fleetId = second.fleetId := by
  rw [(job.recorded_of_run record recordMem).sources] at firstMem secondMem
  obtain ⟨inCluster, stored, _⟩ := job.mem_clusterMemories firstMem
  obtain ⟨otherInCluster, otherStored, _⟩ := job.mem_clusterMemories secondMem
  have clusterMem : record.cluster ∈ selectedClusters job.order job.minCluster job.pairs := by
    rw [← job.map_cluster_records]
    exact mem_map_of_mem recordMem
  rw [joins.rows first stored, joins.rows second otherStored]
  exact label_eq_of_mem_selectedClusters joins.pairs clusterMem inCluster otherInCluster

/-- What a record archives of the memories are sources that its crystals outrank. -/
theorem mem_sources_of_archived (stored : source ∈ job.memories)
    (archived : source.id ∈ record.archived) :
    source ∈ record.sources ∧ job.trust source ≤ job.crystalTrust record.sources := by
  have recorded := job.recorded_of_run record recordMem
  obtain ⟨other, retirable, sameId⟩ := (recorded.mem_archived_iff.mp archived).source
  rw [← recorded.sources] at retirable
  obtain ⟨isSource, low⟩ := trust_le_of_retirable retirable
  have otherStored := (job.mem_clusterMemories (recorded.sources ▸ isSource)).2.1
  rw [← Table.eq_of_key_eq otherStored stored sameId]
  exact ⟨isSource, low⟩

theorem bounded_of_created (joins : job.JoinsFleets fleetOf) {entry : Fact × FactOutcome}
    (entryMem : entry ∈ record.outcomes) (isCreated : entry.2 = .created row) :
    job.Bounded record entry.1 row (job.crystalTrust record.sources) := by
  have recorded := job.recorded_of_run record recordMem
  have wrote : record.outcomes ≠ [] := ne_nil_of_mem entryMem
  have sources : ∀ source ∈ record.sources, source ∈ job.memories ∧ source.live = true ∧
      source.visibility ∈ sharedVisibilities := by
    intro source sourceMem
    exact (job.mem_clusterMemories (recorded.sources ▸ sourceMem)).2
  obtain ⟨id, rfl⟩ := recorded.created entry entryMem row isCreated
  refine ⟨⟨id, rfl⟩, ⟨rfl, rfl⟩, ?_, ?_, ?_, ?_, ⟨?_, recorded.quoted wrote⟩, rfl, sources, ?_⟩
  · intro unnamed source sourceMem
    exact crystalFleetId_eq unnamed
      (fun other otherMem => fleetId_eq_of_mem_sources recordMem joins otherMem sourceMem)
      sourceMem
  · intro source sourceMem
    exact width_crystalVisibility_le sourceMem (sources source sourceMem).2.2
  · exact fun source sourceMem => crystalTrust_le sourceMem
  · exact quarantineBelowTrust_le (recorded.asked wrote)
  · rw [← recorded.answered]
    exact mem_map_of_mem entryMem
  · exact fun source stored archived => mem_sources_of_archived recordMem stored archived

end Created

variable {job : Job}

/-- The pairs of a sweep join rows of one fleet, if rows stay in their fleets. -/
theorem joinsFleets_of_sweep {sweep : Sweep} {stores : List Memories}
    {fleetOf : Uuid → Option String}
    (swept : job.pairs = (sweep.checkNearDuplicates stores 0 []).map Prod.fst)
    (fleets : ∀ memories ∈ stores, ∀ row ∈ memories, row.fleetId = fleetOf row.id)
    (rows : ∀ row ∈ job.memories, row.fleetId = fleetOf row.id) : job.JoinsFleets fleetOf := by
  refine ⟨?_, rows⟩
  have shares : Shares fleetOf (sweep.checkNearDuplicates stores 0 []) := by
    apply shares_checkNearDuplicates ?_ 0 (forall_mem_nil _)
    intro memories storeMem first firstMem second secondMem _ sameFleet
    rwa [← fleets memories storeMem first firstMem, ← fleets memories storeMem second secondMem]
  rw [swept]
  intro pair pairMem
  obtain ⟨found, foundMem, rfl⟩ := mem_map.mp pairMem
  exact shares found foundMem

/-- A run over the pairs of a sweep joins sources of one fleet only, however the memories change
from page to page. -/
theorem swept_sources_share_fleet {sweep : Sweep} {stores : List Memories}
    (fleetOf : Uuid → Option String)
    (swept : job.pairs = (sweep.checkNearDuplicates stores 0 []).map Prod.fst)
    (fleets : ∀ memories ∈ job.memories :: stores, ∀ row ∈ memories, row.fleetId = fleetOf row.id) :
    ∀ record ∈ job.runCrystallization.records, ∀ first ∈ record.sources,
      ∀ second ∈ record.sources, first.fleetId = second.fleetId := by
  intro record recordMem first firstMem second secondMem
  rw [forall_mem_cons] at fleets
  have joins := joinsFleets_of_sweep swept fleets.2 fleets.1
  exact fleetId_eq_of_mem_sources recordMem joins firstMem secondMem

/-- In every run over pairs within fleets, each created row is bounded by its sources; the
rows that the run adds are these, and what it changes otherwise are sources of theirs that
are trusted no more. -/
theorem crystals_bounded_by_sources (job : Job) (fleetOf : Uuid → Option String)
    (joins : job.JoinsFleets fleetOf) :
    (∀ record ∈ job.runCrystallization.records, ∀ entry ∈ record.outcomes, ∀ row,
      entry.2 = .created row → ∃ trust, job.Bounded record entry.1 row trust) ∧
    (∀ row ∈ job.runCrystallization.memories, row.id ∉ job.memories.rows.map Row.id →
      ∃ record ∈ job.runCrystallization.records, ∃ entry ∈ record.outcomes,
        entry.2 = .created row) ∧
    ∀ source ∈ job.memories, source ∉ job.runCrystallization.memories →
      ∃ record ∈ job.runCrystallization.records, source ∈ record.sources ∧
        ∃ entry ∈ record.outcomes, ∃ row trust, entry.2 = .created row ∧
          row.sourceTrust = some trust ∧ job.trust source ≤ trust := by
  have sound := sound_of_run job
  refine ⟨?_, sound.added, ?_⟩
  · intro record recordMem entry entryMem row isCreated
    exact ⟨_, bounded_of_created recordMem joins entryMem isCreated⟩
  · intro source stored changed
    have archives : job.runCrystallization.Archives source.id := by
      by_contra spared
      exact changed (sound.unchanged source stored spared)
    obtain ⟨record, recordMem, archived⟩ := archives
    obtain ⟨isSource, low⟩ := mem_sources_of_archived recordMem stored archived
    have retires := (job.recorded_of_run record recordMem).mem_archived_iff.mp archived
    obtain ⟨⟨entry, entryMem, row, isCreated⟩, _⟩ := isReplaced_iff.mp retires.replaced
    have bounded := bounded_of_created recordMem joins entryMem isCreated
    exact ⟨record, recordMem, isSource, entry, entryMem, row, _, isCreated, bounded.records.2, low⟩

/-! ## Crystals of crystals -/

/-- The run creates the row for a cluster with the source. -/
def Job.Builds (job : Job) (source row : Row) : Prop :=
  ∃ record ∈ job.runCrystallization.records, source ∈ record.sources ∧
    ∃ entry ∈ record.outcomes, entry.2 = .created row

/-- What a later run finds of a row, whose status may have changed. -/
structure FoundAs (row found : Row) : Prop where
  isInferred : found.isInferred = row.isInferred
  sourceTrust : found.sourceTrust = row.sourceTrust
  visibility : found.visibility = row.visibility

/-- The row comes of the origin through one run after another, of which the given one is
the first. -/
inductive Descends (job : Job) (origin : Row) : Row → Prop
  | built {row : Row} (builds : job.Builds origin row) : Descends job origin row
  | rebuilt {row found next : Row} {later : Job} (descends : Descends job origin row)
      (foundAs : FoundAs row found) (builds : later.Builds found next) : Descends job origin next

variable {source row origin : Row}

theorem Job.Builds.bounded (builds : job.Builds source row) :
    row.isInferred = true ∧ row.sourceTrust.getD 0 ≤ job.trust source ∧
      width row.visibility ≤ width source.visibility := by
  obtain ⟨record, recordMem, sourceMem, entry, entryMem, isCreated⟩ := builds
  have recorded := job.recorded_of_run record recordMem
  obtain ⟨id, rfl⟩ := recorded.created entry entryMem row isCreated
  have shared := (job.mem_clusterMemories (recorded.sources ▸ sourceMem)).2.2.2
  exact ⟨rfl, crystalTrust_le sourceMem, width_crystalVisibility_le sourceMem shared⟩

/-- A derived row is trusted as recorded, by every run. -/
theorem trust_of_isInferred (isInferred : row.isInferred = true) :
    job.trust row = row.sourceTrust.getD 0 :=
  if_pos isInferred

/-- Along any number of runs, a row is trusted and visible no more than its origin was to
the first of them. -/
theorem crystals_bounded_by_origin (descends : Descends job origin row) :
    row.isInferred = true ∧ (∀ reader : Job, reader.trust row ≤ job.trust origin) ∧
      width row.visibility ≤ width origin.visibility := by
  induction descends with
  | built builds =>
    obtain ⟨isInferred, trust, width⟩ := builds.bounded
    refine ⟨isInferred, fun reader => ?_, width⟩
    exact (trust_of_isInferred isInferred).trans_le trust
  | @rebuilt row found next later _ foundAs builds ih =>
    obtain ⟨rowInferred, rowTrust, rowWidth⟩ := ih
    obtain ⟨isInferred, trust, width⟩ := builds.bounded
    have foundTrust : later.trust found ≤ job.trust origin := by
      rw [trust_of_isInferred (foundAs.isInferred.trans rowInferred), foundAs.sourceTrust,
        ← trust_of_isInferred rowInferred]
      exact rowTrust later
    refine ⟨isInferred, fun reader => ?_, width.trans (foundAs.visibility ▸ rowWidth)⟩
    rw [trust_of_isInferred isInferred]
    exact trust.trans foundTrust

/-! ## A crystal of unequal sources -/

/-- Rows of one fleet: of a trusted author, of an earlier run, and of a less trusted
author. -/
def unequalRows : List Row :=
  [{ id := Uuid.ofNat 1, tenantId := "t", fleetId := some "f", agentId := "ann"
     visibility := .scopeOrg, createdAt := none },
   { id := Uuid.ofNat 2, tenantId := "t", fleetId := some "f", agentId := "crystallizer"
     visibility := .scopeOrg, createdAt := none, isInferred := true, sourceTrust := some 2 },
   { id := Uuid.ofNat 3, tenantId := "t", fleetId := some "f", agentId := "bo"
     createdAt := none }]

/-- A run that names no fleet, where writes of trust below 1 are held. -/
def unequalJob : Job where
  tenantId := "t"
  fleetId := none
  pairs := [(Uuid.ofNat 1, Uuid.ofNat 2), (Uuid.ofNat 2, Uuid.ofNat 3)]
  memories := ⟨unequalRows, by decide +kernel⟩
  settings := { belowTrust := some 1 }
  minClusterSize := none
  trustLevel := fun agentId => if agentId = "ann" then some 3 else some 1
  order := ⟨id, List.Perm.refl⟩
  services :=
    { answer := fun _ _ => .facts [.fact "port 80 is tcp" none none]
      create := fun _ memories _ =>
        if fresh : Uuid.ofNat 4 ∉ memories.rows.map Row.id then .created (Uuid.ofNat 4) fresh
        else .failed
      archive := fun _ _ => { archives := fun _ => true, skipped := some [] } }

/-- The crystal is visible to the team and has trust 1, the least of 3, 2 and 1; only the
row of trust 1 is archived for it. -/
theorem crystals_bounded_by_sources_unequal : unequalJob.runCrystallization.memories.rows.map
        (fun row => (row.id.value, row.fleetId, row.visibility, row.sourceTrust, row.live)) =
      [(1, some "f", .scopeOrg, none, true), (2, some "f", .scopeOrg, some 2, true),
        (3, some "f", .scopeTeam, none, false), (4, some "f", .scopeTeam, some 1, true)] ∧
    ∀ record ∈ unequalJob.runCrystallization.records, ∀ entry ∈ record.outcomes, ∀ row,
      entry.2 = .created row → ∃ trust, unequalJob.Bounded record entry.1 row trust := by
  refine ⟨by decide +kernel, ?_⟩
  exact (crystals_bounded_by_sources unequalJob (fun _ => some "f")
    ⟨fun _ _ => rfl, by decide +kernel⟩).1

theorem crystals_bounded_by_origin_unequal :
    ∃ row ∈ unequalJob.runCrystallization.memories.rows, row.sourceTrust = some 1 ∧
      Descends unequalJob unequalRows[1] row ∧
      ∀ reader : Job, reader.trust row ≤ unequalJob.trust unequalRows[1] := by
  have built : ∃ row ∈ unequalJob.runCrystallization.memories.rows, row.sourceTrust = some 1 ∧
      unequalJob.Builds unequalRows[1] row := by
    unfold Job.Builds
    decide +kernel
  obtain ⟨row, stored, trust, builds⟩ := built
  have descends := Descends.built builds
  exact ⟨row, stored, trust, descends, (crystals_bounded_by_origin descends).2.1⟩

/-- A sweep that finds two pairs of the rows. -/
def unequalSweep : Sweep where
  tenantId := "t"
  fleetId := none
  threshold := 1
  distance := fun first second => if first.value + second.value = 4 then 1 else 0
  dedupChecked := fun _ => false
  order := unequalJob.order

/-- The job with the pairs of the sweep. -/
def sweptJob : Job :=
  { unequalJob with
    pairs := (unequalSweep.checkNearDuplicates [unequalJob.memories] 0 []).map Prod.fst }

theorem swept_sources_share_fleet_unequal :
    sweptJob.runCrystallization.records.map (fun record => record.sources.length) = [3] ∧
      ∀ record ∈ sweptJob.runCrystallization.records, ∀ first ∈ record.sources,
        ∀ second ∈ record.sources, first.fleetId = second.fleetId :=
  ⟨by decide +kernel,
    swept_sources_share_fleet (fun _ => some "f") rfl (by decide +kernel)⟩

end Caura.Crystallizer
