import Caura.Contradiction.System

/-!
# Plans are grounded in the table

Whatever a task has read is a reading of a row that is still there and can
still be read: no step of the system deletes or holds a row, and what steps
write are statuses and edges.  So the statuses a pass plans always land, and
the order of two rows that a pass compared is still their order in the table.
-/

namespace Caura.Contradiction

open Caura.Relation Caura.Memory List

/-! ## Grounded plans -/

namespace Plan

/-- The rows the pass has read. -/
def rows (plan : Plan) : List Row :=
  readRows plan.newMemory plan.candidates

/-- The rows the pass has read are distinct readings of rows of its tenant. -/
structure Grounded (memories : Memories) (plan : Plan) : Prop where
  distinct : (plan.rows.map Row.id).Nodup
  reads : ∀ row ∈ plan.rows, Reads memories row
  readable : ∀ row ∈ plan.rows, row.readable = true
  tenant : ∀ row ∈ plan.rows, row.tenantId = plan.tenantId

namespace Grounded

variable {memories memories' : Memories} {plan : Plan}

theorem mono (grounded : plan.Grounded memories)
    (keeps : ∀ row, Reads memories row → Reads memories' row) :
    plan.Grounded memories' where
  distinct := grounded.distinct
  reads := fun row rowMem => keeps row (grounded.reads row rowMem)
  readable := grounded.readable
  tenant := grounded.tenant

theorem invariant (grounded : plan.Grounded memories) :
    LoopInvariant plan.kind plan.newMemory plan.byAuthor plan.candidates plan.loop :=
  detectionLoop_invariant grounded.distinct _

theorem plans (grounded : plan.Grounded memories) :
    Plans plan.kind plan.newMemory plan.byAuthor plan.newMemory.supersedesId plan.candidates
      plan.loop :=
  plans_detectionLoop grounded.distinct

variable {update : Update}

section

variable (grounded : plan.Grounded memories) (updateMem : update ∈ plan.updates)

include grounded updateMem

theorem planned : Planned plan.kind plan.rows update :=
  grounded.invariant.planned update updateMem

/-- No planned update holds a row. -/
theorem status_ne_quarantined : update.status ≠ .quarantined := by
  obtain ⟨row, rowMem, _, statusEq⟩ := (grounded.planned updateMem).source
  rcases statusEq with demoted | read
  · rw [demoted]
    cases plan.kind <;> decide
  · have readable := grounded.readable row rowMem
    simp only [Row.readable, Bool.and_eq_true, bne_iff_ne] at readable
    rw [read]
    exact readable.2

/-- The row of a planned update can be read. -/
theorem getMemory_isSome :
    ∃ current, getMemory memories update.memoryId plan.tenantId = some current := by
  obtain ⟨row, rowMem, idEq, _⟩ := (grounded.planned updateMem).source
  obtain ⟨current, found, fixedEq, readable⟩ := grounded.reads row rowMem
  refine ⟨current, getMemory_eq_some_iff.mpr ⟨idEq ▸ found, ?_, readable⟩⟩
  rw [Row.tenantId_eq_of_fixed fixedEq, grounded.tenant row rowMem]

/-- The status of a planned update always lands. -/
theorem memoryUpdateStatus_eq (now : Timestamp) :
    memoryUpdateStatus now memories update.memoryId plan.tenantId update.statusWrite =
      (writeStatus memories update.memoryId plan.tenantId update.status, .ok true) := by
  obtain ⟨current, found⟩ := grounded.getMemory_isSome updateMem
  rw [(grounded.planned updateMem).guarded.statusWrite, memoryUpdateStatus_plain
      (grounded.status_ne_quarantined updateMem), found]
  rfl

end

end Grounded

end Plan

/-! ## Grounded tasks -/

/-- What a task has read is grounded, and what it has left to write is the end
of its batch. -/
def Task.Grounded (memories : Memories) : Task → Prop
  | .idle => True
  | .loaded newMemory => Reads memories newMemory ∧ newMemory.readable = true
  | .planned plan => plan.Grounded memories
  | .writing plan pending => plan.Grounded memories ∧ pending <:+ plan.updates
  | .linking plan target update pending =>
    plan.Grounded memories ∧ (update :: pending) <:+ plan.updates ∧ update.casEdge = some target
  | .flushed plan => plan.Grounded memories
  | .retracting _ => True
  | .clearing _ => True
  | .stopped => True

theorem Task.Grounded.mono {memories memories' : Memories} {task : Task}
    (grounded : task.Grounded memories)
    (keeps : ∀ row, Reads memories row → Reads memories' row) :
    task.Grounded memories' := by
  cases task with
  | loaded newMemory => exact ⟨keeps newMemory grounded.1, grounded.2⟩
  | planned plan | flushed plan => exact Plan.Grounded.mono grounded keeps
  | writing plan pending | linking plan target update pending =>
    exact ⟨grounded.1.mono keeps, grounded.2⟩
  | idle | retracting _ | clearing _ | stopped => trivial

variable {memories : Memories}

theorem Task.grounded_resume {plan : Plan} {pending : List Update}
    (grounded : plan.Grounded memories) (suffix : pending <:+ plan.updates) :
    (Task.resume plan pending).Grounded memories := by
  cases pending with
  | nil => exact grounded
  | cons update pending => exact ⟨grounded, suffix⟩

/-- Every task of the world is grounded. -/
def World.Grounded (world : World) : Prop :=
  ∀ task, (world.tasks task).Grounded world.memories

variable {world next : World} {task : Nat}

/-- A world stays grounded when one task moves on to a grounded state and the
table keeps every reading. -/
theorem World.Grounded.write (grounded : world.Grounded) {next : Task}
    (keeps : ∀ row, Reads world.memories row → Reads memories row)
    (nextGrounded : next.Grounded memories) : (world.write task memories next).Grounded := by
  intro other
  by_cases same : other = task
  · subst other
    simpa [World.write] using nextGrounded
  · simpa [World.write, Function.update_of_ne same] using (grounded other).mono keeps

theorem World.Grounded.advance (grounded : world.Grounded) {next : Task}
    (nextGrounded : next.Grounded world.memories) : (world.advance task next).Grounded :=
  grounded.write (fun _ reads => reads) nextGrounded

/-! ## Candidates are readings -/

variable {fleetId : Option String} {newMemory row : Row} {tenantId : String}

theorem liveScope_spec (inScope : liveScope tenantId fleetId newMemory row = true) :
    row.tenantId = tenantId ∧ row.readable = true ∧ row.id ≠ newMemory.id := by
  simp only [liveScope, Bool.and_eq_true, beq_iff_eq, bne_iff_ne] at inScope
  obtain ⟨⟨⟨tenantEq, live⟩, idNe⟩, _⟩ := inScope
  refine ⟨tenantEq, ?_, idNe⟩
  simp only [Row.live, Bool.and_eq_true] at live
  have notHeld : row.status ≠ .quarantined := by
    intro held
    rw [held] at live
    exact absurd live.2 (by decide)
  simp [Row.readable, live.1, notHeld]

variable {text : TextOps}

theorem mem_rdfCandidates (rowMem : row ∈ rdfCandidates text memories tenantId newMemory) :
    row ∈ memories ∧ liveScope tenantId newMemory.fleetId newMemory row = true := by
  unfold rdfCandidates at rowMem
  split at rowMem
  · rw [findRdfConflicts, Table.mem_select_iff, Bool.and_eq_true, Bool.and_eq_true] at rowMem
    exact ⟨rowMem.1, rowMem.2.1.1⟩
  · simp at rowMem

theorem nodup_rdfCandidates :
    ((rdfCandidates text memories tenantId newMemory).map Row.id).Nodup := by
  unfold rdfCandidates
  split
  · exact memories.nodup.sublist (filter_sublist.map Row.id)
  · exact nodup_nil

variable {candidates : List Candidate}

/-- The candidates of every pass are distinct rows of the table, in the scope
of the trigger. -/
theorem Admissible.spec {kind : Kind}
    (admissible : Admissible text memories kind newMemory fleetId candidates) :
    (candidates.map fun found => found.row.id).Nodup ∧
      ∀ found ∈ candidates, found.row ∈ memories ∧ ∃ scopeFleet,
        liveScope newMemory.tenantId scopeFleet newMemory found.row = true := by
  cases kind with
  | rdf =>
    have perm : candidates.Perm ((rdfCandidates text memories
        newMemory.tenantId newMemory).map fun row => { row := row }) := admissible
    constructor
    · have ids := perm.map fun found => found.row.id
      rw [map_map] at ids
      exact ids.nodup_iff.mpr nodup_rdfCandidates
    · intro found foundMem
      obtain ⟨row, rowMem, rfl⟩ := mem_map.mp (perm.mem_iff.mp foundMem)
      exact ⟨(mem_rdfCandidates rowMem).1, _, (mem_rdfCandidates rowMem).2⟩
  | semantic | entity =>
    refine ⟨admissible.1, fun found foundMem => ?_⟩
    obtain ⟨inTable, inScope⟩ := admissible.2 found foundMem
    exact ⟨inTable, _, (Bool.and_eq_true_iff.mp inScope).1⟩

/-! ## Passes keep the world grounded -/

/-- What a task plans from admissible candidates is grounded. -/
theorem grounded_of_admissible {kind : Kind} (byAuthor : ByAuthor)
    (reads : Reads memories newMemory) (readable : newMemory.readable = true)
    (admissible : Admissible text memories kind newMemory fleetId candidates) :
    Plan.Grounded memories ⟨kind, newMemory, byAuthor, candidates⟩ := by
  obtain ⟨distinct, inScopes⟩ := admissible.spec
  have scopedRow : ∀ row ∈ candidates.map Candidate.row, row ∈ memories ∧
      row.tenantId = newMemory.tenantId ∧ row.readable = true ∧ row.id ≠ newMemory.id := by
    intro row rowMem
    obtain ⟨found, foundMem, rfl⟩ := mem_map.mp rowMem
    obtain ⟨inTable, scopeFleet, inScope⟩ := inScopes found foundMem
    exact ⟨inTable, liveScope_spec inScope⟩
  constructor
  · change ((newMemory :: candidates.map Candidate.row).map Row.id).Nodup
    rw [map_cons, nodup_cons, map_map]
    refine ⟨?_, distinct⟩
    rw [← map_map]
    intro idMem
    obtain ⟨row, rowMem, idEq⟩ := mem_map.mp idMem
    exact (scopedRow row rowMem).2.2.2 idEq
  · refine forall_mem_cons.mpr ⟨reads, fun row candidate => ?_⟩
    have scope := scopedRow row candidate
    exact reads_of_lookup (Table.lookup_key scope.1) scope.2.2.1
  · exact forall_mem_cons.mpr ⟨readable, fun row candidate => (scopedRow row candidate).2.2.1⟩
  · exact forall_mem_cons.mpr ⟨rfl, fun row candidate => (scopedRow row candidate).2.1⟩

/-- The status that a task is about to write always lands. -/
theorem World.Grounded.lands {now : Timestamp} {plan : Plan} {update : Update}
    {pending : List Update} {answer : Except StatusError Bool} (grounded : world.Grounded)
    (writing : world.tasks task = .writing plan (update :: pending))
    (wrote : memoryUpdateStatus now world.memories update.memoryId plan.tenantId
      update.statusWrite = (memories, answer)) :
    plan.Grounded world.memories ∧ update :: pending <:+ plan.updates ∧
      memories = writeStatus world.memories update.memoryId plan.tenantId update.status ∧
        answer = .ok true := by
  have read := grounded task
  rw [writing] at read
  rw [read.1.memoryUpdateStatus_eq (read.2.subset (.head _))] at wrote
  cases wrote
  exact ⟨read.1, read.2, rfl, rfl⟩

variable {kindOf : Nat → Kind}

theorem World.Grounded.passMove {event : PassEvent} (grounded : world.Grounded)
    (move : PassMove text kindOf world event next) : next.Grounded := by
  cases move with
  | loaded idle found =>
    obtain ⟨present, _, readable⟩ := getMemory_eq_some_iff.mp found
    exact grounded.advance ⟨reads_of_lookup present readable, readable⟩
  | missing idle | refused planned => exact grounded.advance trivial
  | planned loaded admissible =>
    rename_i task fleetId candidates newMemory
    have read := grounded task
    rw [loaded] at read
    exact grounded.advance (grounded_of_admissible _ read.1 read.2 admissible)
  | sent planned =>
    rename_i task plan
    have planGrounded := grounded task
    rw [planned] at planGrounded
    exact grounded.advance (Task.grounded_resume planGrounded (suffix_refl _))
  | failed writing wrote => cases (grounded.lands writing wrote).2.2.2
  | @wrote _ _ plan update _ _ _ _ writing wrote continues =>
    obtain ⟨read, suffix, rfl, _⟩ := grounded.lands writing wrote
    have keeps := fun row (reads : Reads world.memories row) =>
      reads.writeStatus update.memoryId plan.tenantId
        (read.status_ne_quarantined (suffix.subset (.head _)))
    refine grounded.write keeps ?_
    rcases continues with rfl | ⟨target, edge, rfl⟩
    · exact Task.grounded_resume (read.mono keeps) ((suffix_cons _ _).trans suffix)
    · exact ⟨read.mono keeps, suffix, edge⟩
  | linked linking =>
    rename_i task plan target update pending
    have read := grounded task
    rw [linking] at read
    have keeps := fun row (reads : Reads world.memories row) =>
      reads.memorySetSupersedesIfNull update.memoryId target plan.tenantId
    exact grounded.write keeps (Task.grounded_resume (read.1.mono keeps)
      ((suffix_cons update pending).trans read.2.1))

/-- Retractions keep the world grounded as well. -/
theorem World.Grounded.move (grounded : world.Grounded) (move : Move text kindOf world next) :
    next.Grounded := by
  cases move with
  | pass move => exact grounded.passMove move
  | retrusted agents => exact grounded
  | resolved pair | stands => exact grounded.advance trivial
  | reverted =>
    refine grounded.write (fun row reads => ?_) trivial
    rw [revertCandidate_eq]
    exact reads.writeStatus _ _ (by decide)
  | cleared =>
    exact grounded.write (fun row reads => reads.retractSupersedes _ _ _ _) trivial

/-- A world in which nothing has started is grounded. -/
theorem World.grounded_of_idle (idle : ∀ task, world.tasks task = .idle) : world.Grounded := by
  intro task
  rw [idle task]
  trivial

end Caura.Contradiction
