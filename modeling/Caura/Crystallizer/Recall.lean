import Caura.Crystallizer.Invariant

/-!
# Facts stay in recall

A run archives sources only of clusters that created a fact and failed none.  Each fact
of such a cluster has a row behind it: the crystal created for it, which the run never
archives, or the row that its 409 named.  The named row may be a source of the same
cluster, or of a later one, and then the run itself takes it out of recall.  So the
facts of the clusters that the run archives from stay in recall exactly when no row
that their 409s named is a source that some replaced cluster may retire and that storage
archives when it is asked to.
-/

namespace Caura.Crystallizer

open Caura.Memory Caura.Relation Caura.Value

/-! ## Sources are archived with their own cluster -/

section Own

variable {job : Job} {record other : ClusterRecord} {id : Uuid}

theorem Job.Retires.mem_cluster (retires : job.Retires record id) : id ∈ record.cluster := by
  obtain ⟨source, retirable, rfl⟩ := retires.source
  exact (job.mem_clusterMemories (List.mem_of_mem_filter retirable)).1

/-- What the run archives are the rows that its clusters retire. -/
theorem archives_iff : job.runCrystallization.Archives id ↔
    ∃ record ∈ job.runCrystallization.records, job.Retires record id :=
  exists_congr fun record => and_congr_right fun recordMem =>
    (job.recorded_of_run record recordMem).mem_archived_iff

/-- Records with a row in common are the same. -/
theorem record_eq_of_common (recordMem : record ∈ job.runCrystallization.records)
    (otherMem : other ∈ job.runCrystallization.records) (inRecord : id ∈ record.cluster)
    (inOther : id ∈ other.cluster) : record = other := by
  by_contra apart
  have disjoint : job.runCrystallization.records.Pairwise fun first second =>
      first.cluster.Disjoint second.cluster := by
    rw [← List.pairwise_map (R := List.Disjoint), job.map_cluster_records]
    exact pairwise_disjoint_selectedClusters _ _ _
  have symmetric : Std.Symm fun first second : ClusterRecord =>
      first.cluster.Disjoint second.cluster :=
    ⟨fun _ _ => List.Disjoint.symm⟩
  exact disjoint.forall recordMem otherMem apart inRecord inOther

/-- A row of a cluster that the run has archived was archived with that cluster. -/
theorem retires_of_archives (recordMem : record ∈ job.runCrystallization.records)
    (inCluster : id ∈ record.cluster) (archives : job.runCrystallization.Archives id) :
    job.Retires record id := by
  obtain ⟨other, otherMem, retires⟩ := archives_iff.mp archives
  rw [record_eq_of_common recordMem otherMem inCluster retires.mem_cluster]
  exact retires

end Own

/-! ## Facts -/

/-- Every fact of the cluster has an outcome, and a live row behind it. -/
def FactsKept (progress : Progress) (record : ClusterRecord) : Prop :=
  record.outcomes.map Prod.fst = record.extraction.getD [] ∧
    ∀ entry ∈ record.outcomes, ∃ row ∈ progress.memories,
      entry.2.carrier.map Row.id = some row.id ∧ row.live = true

/-- The run archives a row of the cluster. -/
def ArchivedFrom (progress : Progress) (record : ClusterRecord) : Prop :=
  ∃ id ∈ record.cluster, progress.Archives id

/-- No row that a 409 of the cluster named is retired by a cluster. -/
def Job.NamedSpared (job : Job) (record : ClusterRecord) : Prop :=
  ∀ entry ∈ record.outcomes, ∀ row, entry.2 = .duplicate row →
    ∀ other ∈ job.runCrystallization.records, ¬ job.Retires other row.id

section Facts

variable {job : Job} {record : ClusterRecord} (recordMem : record ∈ job.runCrystallization.records)

include recordMem

theorem archivedFrom_iff :
    ArchivedFrom job.runCrystallization record ↔ ∃ id, job.Retires record id := by
  constructor
  · rintro ⟨id, inCluster, archives⟩
    exact ⟨id, retires_of_archives recordMem inCluster archives⟩
  · rintro ⟨id, retires⟩
    exact ⟨id, retires.mem_cluster, archives_iff.mpr ⟨record, recordMem, retires⟩⟩

/-- The facts of a replaced cluster are kept exactly if the named rows are spared. -/
theorem factsKept_iff_namedSpared (replaced : isReplaced record.outcomes = true) :
    FactsKept job.runCrystallization record ↔ job.NamedSpared record := by
  have sound := sound_of_run job
  constructor
  · rintro ⟨_, kept⟩ entry entryMem row isDuplicate retiring retiringMem retires
    obtain ⟨other, otherMem, sameId, live⟩ := kept entry entryMem
    rw [isDuplicate] at sameId
    have archives := archives_iff.mpr ⟨retiring, retiringMem, retires⟩
    have dead := sound.dead other otherMem (Option.some.inj sameId ▸ archives)
    rw [dead] at live
    cases live
  · intro spared
    refine ⟨(job.recorded_of_run record recordMem).answered, fun entry entryMem => ?_⟩
    have carriedBy : ∀ row, entry.2.carrier = some row → ¬ job.runCrystallization.Archives row.id →
          ∃ stored ∈ job.runCrystallization.memories,
            entry.2.carrier.map Row.id = some stored.id ∧ stored.live = true := by
      intro row isCarrier notArchived
      obtain ⟨stored, live⟩ :=
        sound.carried record recordMem entry entryMem row isCarrier notArchived
      exact ⟨row, stored, by rw [isCarrier]; rfl, live⟩
    cases outcome : entry.2 with
    | created row =>
      rw [← outcome]
      apply carriedBy row (by rw [outcome]; rfl)
      intro archives
      exact sound.created record recordMem entry entryMem row outcome (sound.known row.id archives)
    | duplicate row =>
      rw [← outcome]
      apply carriedBy row (by rw [outcome]; rfl)
      intro archives
      obtain ⟨retiring, retiringMem, retires⟩ := archives_iff.mp archives
      exact spared entry entryMem row outcome retiring retiringMem retires
    | failed => exact absurd outcome ((isReplaced_iff.mp replaced).2 entry entryMem)

end Facts

/-- In every run, the facts of the clusters that the run archives from stay in recall
exactly when no row that a 409 of a cluster that retires a source named is itself a
retired source; and a cluster without a created fact, with a failed one or without facts
has no row archived. -/
theorem facts_stay_in_recall_iff (job : Job) : ((∀ record ∈ job.runCrystallization.records,
        ArchivedFrom job.runCrystallization record → FactsKept job.runCrystallization record) ↔
      ∀ record ∈ job.runCrystallization.records, (∃ id, job.Retires record id) →
        job.NamedSpared record) ∧
    ∀ record ∈ job.runCrystallization.records,
      (¬ ∃ entry ∈ record.outcomes, ∃ row, entry.2 = .created row) ∨
          (∃ entry ∈ record.outcomes, entry.2 = .failed) ∨ record.extraction.getD [] = [] →
        ¬ ArchivedFrom job.runCrystallization record := by
  constructor
  · refine forall_congr' fun record => forall_congr' fun recordMem => ?_
    rw [archivedFrom_iff recordMem]
    exact forall_congr' fun ⟨_, retires⟩ => factsKept_iff_namedSpared recordMem retires.replaced
  · rintro record recordMem unreplaced archivedFrom
    obtain ⟨_, retires⟩ := (archivedFrom_iff recordMem).mp archivedFrom
    obtain ⟨⟨entry, entryMem, row, isCreated⟩, noneFailed⟩ := isReplaced_iff.mp retires.replaced
    rcases unreplaced with noneCreated | ⟨failedEntry, failedMem, failed⟩ | noFacts
    · exact noneCreated ⟨entry, entryMem, row, isCreated⟩
    · exact noneFailed failedEntry failedMem failed
    · have answered := (job.recorded_of_run record recordMem).answered
      rw [noFacts, List.map_eq_nil_iff] at answered
      rw [answered] at entryMem
      cases entryMem

/-! ## A fact that its own cluster archives -/

/-- Three live rows of one agent. -/
def threeRows : List Row :=
  [{ id := Uuid.ofNat 1, tenantId := "t", agentId := "ann", content := "port 80"
     createdAt := none },
   { id := Uuid.ofNat 2, tenantId := "t", agentId := "ann", content := "port is 80"
     createdAt := none },
   { id := Uuid.ofNat 3, tenantId := "t", agentId := "ann", content := "port is 80, tcp"
     createdAt := none }]

/-- `create_memory` under a given id, which fails if a row has the id. -/
def createUnder (memories : Memories) (id : Uuid) : CreateOutcome memories :=
  if fresh : id ∉ memories.rows.map Row.id then .created id fresh else .failed

/-- A 409 that names the row with the id, which fails if there is no such live row. -/
def nameRow (memories : Memories) (id : Uuid) : CreateOutcome memories :=
  match found : memories.lookup id with
  | none => .failed
  | some row =>
    if live : row.live = true then
      .duplicate row (Table.lookup_eq_some_iff.mp found).1 live
    else
      .failed

/-- The three rows are near-duplicates.  Of the two facts extracted, one is created and
the other is what the first row says already. -/
def portJob : Job where
  tenantId := "t"
  fleetId := none
  pairs := [(Uuid.ofNat 1, Uuid.ofNat 2), (Uuid.ofNat 2, Uuid.ofNat 3)]
  memories := ⟨threeRows, by decide +kernel⟩
  settings := {}
  minClusterSize := none
  trustLevel := fun _ => some 1
  order := ⟨id, List.Perm.refl⟩
  services :=
    { answer := fun _ _ => .facts [.fact "port 80 is tcp" none none, .fact "port 80" none none]
      create := fun calls memories _ =>
        if calls = 1 then createUnder memories (Uuid.ofNat 4)
        else nameRow memories (Uuid.ofNat 1)
      archive := fun _ _ => { archives := fun _ => true, skipped := some [] } }

/-- The run archives all three rows, among them the one its 409 named, and only the
created row is live at its end. -/
theorem named_source_archived :
    portJob.runCrystallization.records.map (fun record => record.archived.map Uuid.value) =
        [[1, 2, 3]] ∧
      portJob.runCrystallization.records.map (fun record => record.outcomes.map fun entry =>
        (entry.1.content, entry.2.carrier.map fun row => row.id.value)) =
          [[("port 80 is tcp", some 4), ("port 80", some 1)]] ∧
      (portJob.runCrystallization.memories.rows.filter Row.live).map
        (fun row => (row.id.value, row.content)) = [(4, "port 80 is tcp")] ∧
      ¬ ∀ record ∈ portJob.runCrystallization.records,
        ArchivedFrom portJob.runCrystallization record →
          FactsKept portJob.runCrystallization record := by
  refine ⟨by decide +kernel, by decide +kernel, by decide +kernel, fun kept => ?_⟩
  have unspared : ¬ ∀ record ∈ portJob.runCrystallization.records,
      (∃ id ∈ record.cluster, ∃ other ∈ portJob.runCrystallization.records, id ∈ other.archived) →
        ∀ entry ∈ record.outcomes, ∃ row ∈ portJob.runCrystallization.memories.rows,
          entry.2.carrier.map Row.id = some row.id ∧ row.live = true := by
    decide +kernel
  exact unspared fun record recordMem archivedFrom => (kept record recordMem archivedFrom).2

end Caura.Crystallizer
