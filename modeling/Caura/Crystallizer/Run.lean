import Caura.Crystallizer.Clusters
import Caura.Hold.Decision
import Caura.Relation.Index
import Mathlib.Order.Lattice.Nat

/-!
# A crystallizer run

`_run_crystallization` reads the rows of the selected clusters once and then takes the
clusters one by one.  Of a cluster it keeps the live, shared rows as sources; the least
trust among them is the trust of the crystal and decides whether the cluster is left
alone and which sources may be retired.  The model's facts are created one by one, and
the sources are archived if a fact was created and none failed.

What the run asks of others is left open: the model's answers, what becomes of each
`create_memory`, and what storage makes of a request to archive.  A created row is new,
and a duplicate names a row that is live at the time.
-/

namespace Caura.Crystallizer

open Caura.Memory Caura.Relation Caura.Value List Table
open Caura.Hold (Settings quarantineBelowTrust)

/-! ## Trust -/

/-- `author_trust`: an author without an agents row, or without a name, has trust 0. -/
def authorTrust (trustLevel : String → Option Int) (agentId : String) : Int :=
  if agentId = "" then 0 else (trustLevel agentId).getD 0

/-- `row_trust`: a derived row has its recorded trust, any other its author's. -/
def rowTrust (byAuthor : String → Int) (row : Row) : Int :=
  if row.isInferred then row.sourceTrust.getD 0 else byAuthor row.agentId

/-! ## Facts -/

/-- A fact the model extracted. -/
structure Fact where
  content : String
  memoryType : String
  weight : ℚ
  deriving DecidableEq, Repr

/-- `DEFAULT_MEMORY_TYPE`. -/
def defaultMemoryType : String :=
  "fact"

/-- `MEMORY_TYPES_WRITE`: the types that are neither reserved nor deprecated. -/
def memoryTypesWrite : List String :=
  ["fact", "episode", "decision", "preference", "task", "plan", "action"]

/-- `CLASSIFIER_DEPRECATED_MEMORY_TYPES` and `SERVER_RESERVED_MEMORY_TYPES`. -/
def refusedMemoryTypes : List String :=
  ["semantic", "intention", "commitment", "cancellation", "outcome", "rule", "insight"]

/-- An item of the model's list of facts; a weight that is no number is none. -/
inductive RawItem
  | unusable
  | fact (content : String) (memoryType : Option String) (weight : Option ℚ)
  deriving DecidableEq, Repr

/-- The model's answer: none at all or one without a list of facts, a list, or the
stand-in of a deliberately fake provider. -/
inductive RawAnswer
  | undecided
  | facts (items : List RawItem)
  | standIn (facts : List Fact)
  deriving DecidableEq, Repr

/-- A usable item, with its type and weight brought into their ranges. -/
def RawItem.toFact : RawItem → Option Fact
  | unusable => none
  | fact content memoryType weight =>
    if content = "" then
      none
    else some
        { content
          memoryType := (memoryType.filter memoryTypesWrite.contains).getD defaultMemoryType
          weight := max 0 (min 1 (weight.getD (7 / 10))) }

/-- `_crystallize_cluster`: none if nothing was decided, which a list of facts without a
usable one counts as. -/
def crystallizeCluster : RawAnswer → Option (List Fact)
  | .undecided => none
  | .facts items =>
    let results := items.filterMap RawItem.toFact
    if results.isEmpty ∧ ¬ items.isEmpty then none else some results
  | .standIn facts => some facts

/-! ## Crystals -/

/-- What `create_memory` is asked to store for a fact. -/
structure Crystal where
  fleetId : Option String
  visibility : Visibility
  content : String
  memoryType : String
  weight : ℚ
  crystallizedFrom : List Uuid
  sourceTrust : Int
  deriving DecidableEq, Repr

/-- The row that is stored for a crystal. -/
def Crystal.row (crystal : Crystal) (tenantId : String) (id : Uuid) : Row where
  id
  tenantId
  fleetId := crystal.fleetId
  agentId := "crystallizer"
  memoryType := crystal.memoryType
  content := crystal.content
  status := .confirmed
  visibility := crystal.visibility
  createdAt := none
  isInferred := true
  sourceTrust := some crystal.sourceTrust

/-! ## What the run asks of others -/

/-- The memories of the tenant. -/
abbrev Memories := Table Row Row.id

/-- What becomes of a `create_memory`: a new row, a 409 that names a live row, or a
failure. -/
inductive CreateOutcome (memories : Memories)
  | created (id : Uuid) (fresh : id ∉ memories.rows.map Row.id)
  | duplicate (row : Row) (stored : row ∈ memories) (live : row.live = true)
  | failed

/-- What storage makes of a request to archive: the rows it archives, and its reply,
which is none if the request raised. -/
structure ArchiveOutcome where
  archives : Uuid → Bool
  skipped : Option (List Uuid)

/-- The model, `create_memory` and the archive, asked for the n-th time. -/
structure Services where
  answer : Nat → List Row → RawAnswer
  create : Nat → (memories : Memories) → Crystal → CreateOutcome memories
  archive : Nat → List Uuid → ArchiveOutcome

/-- What the run records for a fact, with the row created or named. -/
inductive FactOutcome
  | created (row : Row)
  | duplicate (row : Row)
  | failed
  deriving DecidableEq, Repr

/-- The row that carries the fact. -/
def FactOutcome.carrier : FactOutcome → Option Row
  | created row | duplicate row => some row
  | failed => none

/-- Create the facts of a cluster one by one. -/
def writeFacts (services : Services) (tenantId : String) (crystal : Fact → Crystal) :
    Nat → Memories → List Fact → Memories × List (Fact × FactOutcome)
  | _, memories, [] => (memories, [])
  | calls, memories, fact :: facts =>
    match services.create calls memories (crystal fact) with
    | .created id fresh =>
      let row := (crystal fact).row tenantId id
      let rest := writeFacts services tenantId crystal (calls + 1)
        (memories.insert row fresh) facts
      (rest.1, (fact, .created row) :: rest.2)
    | .duplicate row _ _ =>
      let rest := writeFacts services tenantId crystal (calls + 1) memories facts
      (rest.1, (fact, .duplicate row) :: rest.2)
    | .failed =>
      let rest := writeFacts services tenantId crystal (calls + 1) memories facts
      (rest.1, (fact, .failed) :: rest.2)

/-! ## The run -/

/-- A run with its surroundings. -/
structure Job where
  tenantId : String
  fleetId : Option String
  pairs : List (Uuid × Uuid)
  memories : Memories
  settings : Settings
  minClusterSize : Option Nat
  trustLevel : String → Option Int
  order : SetOrder
  services : Services

/-- `_SHARED_VISIBILITIES`. -/
def sharedVisibilities : List Visibility :=
  [.scopeTeam, .scopeOrg]

/-- `CRYSTALLIZER_MIN_CLUSTER_SIZE`. -/
def crystallizerMinClusterSize : Nat :=
  3

namespace Job

variable (job : Job)

/-- `crystallizer_min_cluster_size`. -/
def minCluster : Nat :=
  match job.minClusterSize with
  | none => crystallizerMinClusterSize
  | some size => max 2 size

/-- `bulk_get_memories`: the row as the run reads it. -/
def read (id : Uuid) : Option Row :=
  (job.memories.lookup id).filter fun row =>
    row.tenantId = job.tenantId && row.deletedAt.isNone

/-- The trust of a source. -/
def trust (row : Row) : Int :=
  rowTrust (authorTrust job.trustLevel) row

/-- `cluster_memories`: the rows of a cluster that are live and shared. -/
def clusterMemories (cluster : List Uuid) : List Row :=
  (job.order.arrange cluster).filterMap fun id =>
    (job.read id).filter fun row =>
      Status.live.contains row.status && sharedVisibilities.contains row.visibility

/-- `crystal_fleet_id`. -/
def crystalFleetId (sources : List Row) : Option String :=
  match job.fleetId with
  | some fleetId => some fleetId
  | none => sources.head?.bind Row.fleetId

/-- `crystal_visibility`. -/
def crystalVisibility (sources : List Row) : Visibility :=
  if sources.all fun row => row.visibility = .scopeOrg then .scopeOrg else .scopeTeam

/-- `crystal_trust`: the least trust among the sources. -/
def crystalTrust (sources : List Row) : Int :=
  (sources.map job.trust).min?.getD 0

/-- `retirable`: the sources trusted no more than the crystal. -/
def retirable (sources : List Row) : List Row :=
  sources.filter fun row => job.trust row ≤ job.crystalTrust sources

/-- The crystal of a fact. -/
def crystal (sources : List Row) (fact : Fact) : Crystal where
  fleetId := job.crystalFleetId sources
  visibility := crystalVisibility sources
  content := fact.content
  memoryType :=
    if refusedMemoryTypes.contains fact.memoryType then defaultMemoryType else fact.memoryType
  weight := fact.weight
  crystallizedFrom := sources.map Row.id
  sourceTrust := job.crystalTrust sources

/-- Whether the sources are left alone before the model is asked: too few of them, a
trust below the hold level, or only derived rows to retire. -/
def leftAlone (sources : List Row) : Bool :=
  sources.length < job.minCluster ||
    job.crystalTrust sources <
      quarantineBelowTrust job.settings (job.crystalFleetId sources) ||
    ((job.retirable sources).length < sources.length &&
      (job.retirable sources).all Row.isInferred)

end Job

/-- What the run did with a cluster: its sources, the extraction if the model was asked,
the outcome of each fact, the number of calls before the archive, the rows archived, and
whether it comes back next time. -/
structure ClusterRecord where
  cluster : List Uuid
  sources : List Row
  extraction : Option (List Fact) := none
  outcomes : List (Fact × FactOutcome) := []
  calls : Nat := 0
  archived : List Uuid := []
  unsettled : Bool := false

/-- The memories, the number of calls made, and the records of the clusters. -/
structure Progress where
  memories : Memories
  calls : Nat
  records : List ClusterRecord

/-- Archive the rows that storage archives of those asked for. -/
def archiveRows (memories : Memories) (archived : List Uuid) : Memories :=
  memories.modify (fun row => archived.contains row.id)
    (fun row => { row with status := .archived }) fun _ => rfl

/-- Whether the sources may be archived: a fact was created and none failed. -/
def isReplaced (outcomes : List (Fact × FactOutcome)) : Bool :=
  (outcomes.any fun entry => entry.2 matches .created _) &&
    !(outcomes.any fun entry => entry.2 matches .failed)

namespace Job

variable (job : Job)

/-- The sources a cluster archives, once its facts are written. -/
def archivedSources (calls : Nat) (sources : List Row)
    (outcomes : List (Fact × FactOutcome)) : List Uuid :=
  if isReplaced outcomes then
    let requested := (job.retirable sources).map Row.id
    requested.filter (job.services.archive calls requested).archives
  else
    []

/-- Whether a cluster whose facts are written comes back: a fact failed, or the archive
raised. -/
def isUnsettled (calls : Nat) (sources : List Row)
    (outcomes : List (Fact × FactOutcome)) : Bool :=
  (outcomes.any fun entry => entry.2 matches .failed) ||
    (isReplaced outcomes && (job.services.archive calls
      ((job.retirable sources).map Row.id)).skipped.isNone)

/-- The record of a cluster whose facts are written. -/
def writtenRecord (calls : Nat) (cluster : List Uuid) (sources : List Row) (facts : List Fact)
    (outcomes : List (Fact × FactOutcome)) : ClusterRecord where
  cluster
  sources
  extraction := some facts
  outcomes
  calls
  archived := job.archivedSources calls sources outcomes
  unsettled := job.isUnsettled calls sources outcomes

/-- Write the facts of a cluster and archive its sources. -/
def writeCluster (progress : Progress) (cluster : List Uuid) (sources : List Row)
    (facts : List Fact) : Progress :=
  let written := writeFacts job.services job.tenantId (job.crystal sources) progress.calls
    progress.memories facts
  let calls := progress.calls + facts.length
  let record := job.writtenRecord calls cluster sources facts written.2
  { memories := archiveRows written.1 record.archived
    calls := calls + 1
    records := progress.records ++ [record] }

/-- One cluster of the loop. -/
def processCluster (progress : Progress) (cluster : List Uuid) : Progress :=
  let sources := job.clusterMemories cluster
  if job.leftAlone sources then
    { progress with records := progress.records ++ [{ cluster, sources }] }
  else
    match crystallizeCluster (job.services.answer progress.calls sources) with
    | none =>
      { progress with
        calls := progress.calls + 1
        records := progress.records ++ [{ cluster, sources, unsettled := true }] }
    | some [] =>
      { progress with
        calls := progress.calls + 1
        records := progress.records ++ [{ cluster, sources, extraction := some [] }] }
    | some facts =>
      job.writeCluster { progress with calls := progress.calls + 1 } cluster sources facts

/-- `_run_crystallization`. -/
def runCrystallization : Progress :=
  (selectedClusters job.order job.minCluster job.pairs).foldl job.processCluster
    { memories := job.memories, calls := 0, records := [] }

end Job

/-! ## What writing facts does -/

/-- The facts are answered in order; rows stay, and each new one was created for a fact;
the row behind each answer is live; and a created row is the crystal of its fact. -/
structure Wrote (tenantId : String) (crystal : Fact → Crystal) (before : Memories)
    (facts : List Fact) (after : Memories) (outcomes : List (Fact × FactOutcome)) : Prop where
  answered : outcomes.map Prod.fst = facts
  kept : ∀ row ∈ before, row ∈ after
  added : ∀ row ∈ after, row ∈ before ∨ ∃ entry ∈ outcomes, entry.2 = .created row
  carried : ∀ entry ∈ outcomes, ∀ row, entry.2.carrier = some row →
    row ∈ after ∧ row.live = true
  created : ∀ entry ∈ outcomes, ∀ row, entry.2 = .created row →
    row.id ∉ before.rows.map Row.id ∧ ∃ id, row = (crystal entry.1).row tenantId id

section Wrote

variable {tenantId : String} {crystal : Fact → Crystal} {before after : Memories} {fact : Fact}
  {facts : List Fact} {outcomes : List (Fact × FactOutcome)}

/-- A fact for which nothing is created, with the live row that is named if any. -/
theorem Wrote.skip (rest : Wrote tenantId crystal before facts after outcomes)
    {outcome : FactOutcome} (uncreated : ∀ row, outcome ≠ .created row)
    (named : ∀ row, outcome.carrier = some row → row ∈ before ∧ row.live = true) :
    Wrote tenantId crystal before (fact :: facts) after ((fact, outcome) :: outcomes) := by
  refine ⟨congrArg (fact :: ·) rest.answered, rest.kept, ?_, ?_, ?_⟩
  · intro row rowMem
    rcases rest.added row rowMem with old | ⟨entry, entryMem, isCreated⟩
    · exact .inl old
    · exact .inr ⟨entry, .tail _ entryMem, isCreated⟩
  · refine forall_mem_cons.mpr ⟨fun row isCarrier => ?_, rest.carried⟩
    exact (named row isCarrier).imp_left (rest.kept row)
  · exact forall_mem_cons.mpr ⟨fun row isCreated => absurd isCreated (uncreated row), rest.created⟩

/-- A fact for which a row is created. -/
theorem Wrote.create {id : Uuid} (fresh : id ∉ before.rows.map Row.id)
    (rest : Wrote tenantId crystal (before.insert ((crystal fact).row tenantId id) fresh) facts
      after outcomes) :
    Wrote tenantId crystal before (fact :: facts) after
      ((fact, .created ((crystal fact).row tenantId id)) :: outcomes) := by
  refine ⟨congrArg (fact :: ·) rest.answered, ?_, ?_, ?_, ?_⟩
  · intro row rowMem
    exact rest.kept row ((mem_insert_iff fresh).mpr (.inl rowMem))
  · intro row rowMem
    rcases rest.added row rowMem with early | ⟨entry, entryMem, isCreated⟩
    · rcases (mem_insert_iff fresh).mp early with old | rfl
      · exact .inl old
      · exact .inr ⟨_, .head _, rfl⟩
    · exact .inr ⟨entry, .tail _ entryMem, isCreated⟩
  · refine forall_mem_cons.mpr ⟨?_, rest.carried⟩
    rintro _ ⟨⟩
    exact ⟨rest.kept _ ((mem_insert_iff fresh).mpr (.inr rfl)), rfl⟩
  · refine forall_mem_cons.mpr ⟨?_, fun entry later row isCreated => ?_⟩
    · rintro _ ⟨⟩
      exact ⟨fresh, id, rfl⟩
    · exact (rest.created entry later row isCreated).imp_left fun late old =>
        late (key_mem_insert fresh old)

end Wrote

theorem writeFacts_wrote (services : Services) (tenantId : String) (crystal : Fact → Crystal)
    (calls : Nat) (memories : Memories) (facts : List Fact) :
    Wrote tenantId crystal memories facts
      (writeFacts services tenantId crystal calls memories facts).1
      (writeFacts services tenantId crystal calls memories facts).2 := by
  induction facts generalizing calls memories with
  | nil =>
    exact ⟨rfl, fun _ rowMem => rowMem, fun _ rowMem => .inl rowMem, by simp [writeFacts],
      by simp [writeFacts]⟩
  | cons fact facts ih =>
    unfold writeFacts
    cases services.create calls memories (crystal fact) with
    | created id fresh => exact Wrote.create fresh (ih (calls + 1) _)
    | duplicate named stored live =>
      refine (ih (calls + 1) memories).skip (fun _ isCreated => nomatch isCreated) ?_
      rintro row ⟨⟩
      exact ⟨stored, live⟩
    | failed =>
      refine (ih (calls + 1) memories).skip (fun _ isCreated => nomatch isCreated) ?_
      rintro row ⟨⟩

/-! ## What one cluster does -/

namespace Job

variable (job : Job)

/-- A cluster is recorded without any write, or its facts are written. -/
theorem processCluster_cases (progress : Progress) (cluster : List Uuid) :
    (∃ record calls, job.processCluster progress cluster =
        { memories := progress.memories, calls, records := progress.records ++ [record] } ∧
      record.cluster = cluster ∧ record.sources = job.clusterMemories cluster ∧
      record.extraction.getD [] = [] ∧ record.outcomes = [] ∧ record.archived = []) ∨
    job.leftAlone (job.clusterMemories cluster) = false ∧
      ∃ facts, job.processCluster progress cluster =
          job.writeCluster { progress with calls := progress.calls + 1 } cluster
            (job.clusterMemories cluster) facts ∧
        crystallizeCluster (job.services.answer progress.calls
          (job.clusterMemories cluster)) = some facts := by
  unfold processCluster
  dsimp only
  split
  · exact .inl ⟨_, _, rfl, rfl, rfl, rfl, rfl, rfl⟩
  next asked =>
    split
    · exact .inl ⟨_, _, rfl, rfl, rfl, rfl, rfl, rfl⟩
    · exact .inl ⟨_, _, rfl, rfl, rfl, rfl, rfl, rfl⟩
    next facts _ extracted =>
      exact .inr ⟨Bool.eq_false_of_not_eq_true asked, facts, rfl, extracted⟩

/-- A property of the run holds if it holds at the start and every cluster keeps it. -/
theorem invariant_of_run (Inv : Progress → Prop)
    (start : Inv { memories := job.memories, calls := 0, records := [] })
    (step : ∀ progress, ∀ cluster ∈ selectedClusters job.order job.minCluster job.pairs,
      Inv progress → Inv (job.processCluster progress cluster)) :
    Inv job.runCrystallization :=
  List.foldlRecOn _ _ start fun progress holds cluster clusterMem =>
    step progress cluster clusterMem holds

/-- A source is a live, shared row of the cluster that the run has read. -/
theorem mem_clusterMemories {cluster : List Uuid} {row : Row}
    (rowMem : row ∈ job.clusterMemories cluster) :
    row.id ∈ cluster ∧ row ∈ job.memories ∧ row.live = true ∧
      row.visibility ∈ sharedVisibilities := by
  obtain ⟨id, idMem, kept⟩ := mem_filterMap.mp rowMem
  rw [Option.filter_eq_some_iff, Bool.and_eq_true] at kept
  obtain ⟨isRead, live, shared⟩ := kept
  rw [read, Option.filter_eq_some_iff, Bool.and_eq_true] at isRead
  obtain ⟨found, _, undeleted⟩ := isRead
  obtain ⟨stored, rfl⟩ := lookup_eq_some_iff.mp found
  refine ⟨(job.order.perm cluster).mem_iff.mp idMem, stored, ?_, contains_iff_mem.mp shared⟩
  rw [Row.live, undeleted, live]
  rfl

/-- What the record of a cluster says: facts are written for sources that are not left
alone, and are the model's answer to these sources; created rows are their crystals; and
the sources archived are those that the outcomes and storage's answer give. -/
structure Recorded (record : ClusterRecord) : Prop where
  sources : record.sources = job.clusterMemories record.cluster
  answered : record.outcomes.map Prod.fst = record.extraction.getD []
  asked : record.outcomes ≠ [] → job.leftAlone record.sources = false
  quoted : record.outcomes ≠ [] → ∃ calls,
    record.extraction = crystallizeCluster (job.services.answer calls record.sources)
  created : ∀ entry ∈ record.outcomes, ∀ row, entry.2 = .created row →
    ∃ id, row = (job.crystal record.sources entry.1).row job.tenantId id
  archived : record.archived = job.archivedSources record.calls record.sources record.outcomes

variable {job} {record : ClusterRecord} {calls : Nat}

/-- The row is a source that the cluster may retire, the cluster's facts replace its
sources, and storage archives the row when asked to. -/
structure Retires (job : Job) (record : ClusterRecord) (id : Uuid) : Prop where
  replaced : isReplaced record.outcomes = true
  source : ∃ source ∈ job.retirable (job.clusterMemories record.cluster), source.id = id
  answered : (job.services.archive record.calls
    ((job.retirable (job.clusterMemories record.cluster)).map Row.id)).archives id = true

theorem Recorded.mem_archived_iff (recorded : job.Recorded record) {id : Uuid} :
    id ∈ record.archived ↔ job.Retires record id := by
  rw [recorded.archived, recorded.sources, archivedSources]
  split
  next replaced =>
    rw [mem_filter, mem_map]
    exact ⟨fun ⟨source, answered⟩ => ⟨replaced, source, answered⟩,
      fun retires => ⟨retires.source, retires.answered⟩⟩
  next unreplaced => exact ⟨nofun, fun retires => absurd retires.replaced unreplaced⟩

variable (job)

/-- A cluster whose facts are written: rows are added and some archived. -/
theorem writeCluster_spec (progress : Progress) (cluster : List Uuid) {facts : List Fact}
    (asked : job.leftAlone (job.clusterMemories cluster) = false)
    (extracted : crystallizeCluster (job.services.answer calls
      (job.clusterMemories cluster)) = some facts) : ∃ record written calls,
      job.writeCluster progress cluster (job.clusterMemories cluster) facts =
        ⟨archiveRows written record.archived, calls, progress.records ++ [record]⟩ ∧
      Wrote job.tenantId (job.crystal (job.clusterMemories cluster)) progress.memories facts
        written record.outcomes ∧
      record.cluster = cluster ∧ job.Recorded record := by
  have wrote := writeFacts_wrote job.services job.tenantId
    (job.crystal (job.clusterMemories cluster)) progress.calls progress.memories facts
  refine ⟨job.writtenRecord (progress.calls + facts.length) cluster
    (job.clusterMemories cluster) facts _, _, _, rfl, wrote, rfl, rfl, wrote.answered,
    fun _ => asked, fun _ => ⟨calls, extracted.symm⟩, ?_, rfl⟩
  intro entry entryMem row isCreated
  exact (wrote.created entry entryMem row isCreated).2

/-- Each cluster adds one record. -/
theorem processCluster_records (progress : Progress) (cluster : List Uuid) :
    ∃ record, (job.processCluster progress cluster).records = progress.records ++ [record] ∧
      record.cluster = cluster ∧ job.Recorded record := by
  rcases job.processCluster_cases progress cluster with
    ⟨record, calls, processed, rfl, sources, extraction, outcomes, archived⟩ |
      ⟨asked, facts, processed, extracted⟩
  · refine ⟨record, by rw [processed], rfl, sources, ?_, ?_, ?_, ?_, ?_⟩
    · rw [outcomes, extraction, map_nil]
    · exact absurd outcomes
    · exact absurd outcomes
    · rw [outcomes]
      exact fun _ entryMem => nomatch entryMem
    · rw [archived, outcomes]
      rfl
  · obtain ⟨record, written, calls, writes, _, isCluster, recorded⟩ :=
      job.writeCluster_spec { progress with calls := progress.calls + 1 } cluster asked extracted
    exact ⟨record, by rw [processed, writes], isCluster, recorded⟩

theorem recorded_of_run : ∀ record ∈ job.runCrystallization.records, job.Recorded record := by
  apply job.invariant_of_run (fun progress => ∀ record ∈ progress.records, job.Recorded record)
    nofun
  intro progress cluster _ recorded
  obtain ⟨added, records, _, addedRecorded⟩ := job.processCluster_records progress cluster
  rw [records]
  exact forall_mem_append.mpr ⟨recorded, forall_mem_singleton.mpr addedRecorded⟩

theorem map_cluster_foldl (clusters : List (List Uuid)) (progress : Progress) :
    (clusters.foldl job.processCluster progress).records.map ClusterRecord.cluster =
      progress.records.map ClusterRecord.cluster ++ clusters := by
  induction clusters generalizing progress with
  | nil => exact (append_nil _).symm
  | cons cluster clusters ih =>
    obtain ⟨added, records, rfl, _⟩ := job.processCluster_records progress cluster
    rw [foldl_cons, ih, records, map_append, append_assoc]
    rfl

/-- The records are those of the clusters of the batch, in order. -/
theorem map_cluster_records : job.runCrystallization.records.map ClusterRecord.cluster =
    selectedClusters job.order job.minCluster job.pairs :=
  job.map_cluster_foldl _ _

end Job

end Caura.Crystallizer
