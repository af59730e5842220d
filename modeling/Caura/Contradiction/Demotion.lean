import Caura.Contradiction.Grounded

/-!
# Which demotions survive concurrent passes

A flush writes two kinds of statuses: the demoted status on the losers of the
pass, and, on a row that takes an edge, the status the pass read from it.  The
second kind can undo a demotion that another pass made in between.

The theorem of this module is about every interleaving of any number of passes.
As long as each status that is written back is still the stored one at that
moment, every row that a pass decided to demote has the demoted status from the
moment its own write lands.  The counterexample is a run of two passes in which
one write-back is stale.
-/

namespace Caura.Contradiction

open Caura.Relation Caura.Value Caura.Memory Caura.Transition

/-! ## What a task still has to write -/

/-- The plan of a task and the rows of its batch whose status it has not
written. -/
def Task.unwritten : Task → Option (Plan × List Update)
  | .planned plan => some (plan, plan.updates)
  | .writing plan pending => some (plan, pending)
  | .linking plan _ _ pending => some (plan, pending)
  | .flushed plan => some (plan, [])
  | _ => none

theorem Task.unwritten_resume (plan : Plan) (pending : List Update) :
    (Task.resume plan pending).unwritten = some (plan, pending) := by
  cases pending <;> rfl

/-- Each loser of the plan is still to be written or has the demoted status. -/
def Plan.Demoted (kind : Kind) (memories : Memories) (plan : Plan)
    (pending : List Update) : Prop :=
  plan.kind = kind ∧
    ∀ found ∈ plan.candidates,
      confirmed plan.newMemory plan.byAuthor found = true →
        (loser plan.newMemory found).id ∈ pending.map Update.memoryId ∨
          HasStatus memories (loser plan.newMemory found).id kind.demoted

/-- Each loser of each task is still to be written or has the demoted status. -/
def World.Demoted (kind : Kind) (world : World) : Prop :=
  ∀ task plan pending, (world.tasks task).unwritten = some (plan, pending) →
    plan.Demoted kind world.memories pending

variable {kind : Kind} {plan : Plan} {pending : List Update}

theorem Plan.Demoted.mono {memories memories' : Memories}
    (demoted : plan.Demoted kind memories pending)
    (keeps : ∀ id, HasStatus memories id kind.demoted → HasStatus memories' id kind.demoted) :
    plan.Demoted kind memories' pending :=
  ⟨demoted.1, fun found foundMem isConfirmed =>
    (demoted.2 found foundMem isConfirmed).imp_right (keeps _)⟩

variable {memories : Memories} {world next : World} {task : Nat}

theorem World.Demoted.write (demoted : world.Demoted kind) {next : Task}
    (keeps : ∀ id, HasStatus world.memories id kind.demoted → HasStatus memories id kind.demoted)
    (nextDemoted : ∀ plan pending, next.unwritten = some (plan, pending) →
      plan.Demoted kind memories pending) : (world.write task memories next).Demoted kind := by
  intro other plan pending unwritten
  by_cases same : other = task
  · subst other
    simp only [World.write, Function.update_self] at unwritten
    exact nextDemoted plan pending unwritten
  · simp only [World.write, Function.update_of_ne same] at unwritten
    exact (demoted other plan pending unwritten).mono keeps

theorem World.Demoted.advance (demoted : world.Demoted kind) {next : Task}
    (nextDemoted : ∀ plan pending, next.unwritten = some (plan, pending) →
      plan.Demoted kind world.memories pending) : (world.advance task next).Demoted kind :=
  demoted.write (fun _ has => has) nextDemoted

/-- A plan that has written nothing demotes each of its losers in its batch. -/
theorem Plan.Grounded.demoted (grounded : plan.Grounded memories) (kindEq : plan.kind = kind) :
    plan.Demoted kind memories plan.updates := by
  refine ⟨kindEq, fun found foundMem isConfirmed => .inl ?_⟩
  obtain ⟨update, found', _⟩ := grounded.plans.demotes foundMem isConfirmed
  obtain ⟨updateMem, idEq⟩ := Table.lookup_eq_some_iff.mp found'
  exact List.mem_map.mpr ⟨update, updateMem, idEq⟩

variable {update : Update}

/-- The update of a loser's row writes the demoted status. -/
theorem Plan.Grounded.status_of_loser (grounded : plan.Grounded memories) {found : Candidate}
    (foundMem : found ∈ plan.candidates)
    (isConfirmed : confirmed plan.newMemory plan.byAuthor found = true)
    (updateMem : update ∈ plan.updates) (idEq : (loser plan.newMemory found).id = update.memoryId) :
    update.status = plan.kind.demoted := by
  obtain ⟨other, otherFound, statusEq⟩ := grounded.plans.demotes foundMem isConfirmed
  rw [idEq, Table.lookup_key updateMem] at otherFound
  cases otherFound
  exact statusEq

/-- A status that demotes, or that the row has already, leaves every demoted row
demoted. -/
theorem hasStatus_writeFresh (tenantId : String)
    (fresh : update.status = kind.demoted ∨ (memories.lookup update.memoryId).all
        (fun row => row.status == update.status) = true) {id : Uuid}
    (has : HasStatus memories id kind.demoted) :
    HasStatus (writeStatus memories update.memoryId tenantId update.status) id kind.demoted := by
  apply has.writeStatus tenantId
  intro isRow
  rcases fresh with demotes | stored
  · exact demotes
  · obtain ⟨row, found, statusEq⟩ := has
    rw [isRow, found] at stored
    have same : row.status = update.status := by simpa using stored
    rw [← same, statusEq]

/-- Once the status of the next row is written, that row need not be pending. -/
theorem Plan.Demoted.written (demoted : plan.Demoted kind memories (update :: pending))
    (grounded : plan.Grounded memories) (updateMem : update ∈ plan.updates)
    (keeps : ∀ id, HasStatus memories id kind.demoted →
      HasStatus (writeStatus memories update.memoryId plan.tenantId update.status) id
        kind.demoted) : plan.Demoted kind
      (writeStatus memories update.memoryId plan.tenantId update.status) pending := by
  obtain ⟨kindEq, losers⟩ := demoted
  refine ⟨kindEq, fun found foundMem isConfirmed => ?_⟩
  rcases losers found foundMem isConfirmed with unwritten | written
  · rcases List.mem_cons.mp unwritten with isRow | later
    · obtain ⟨current, present⟩ := grounded.getMemory_isSome updateMem
      have demotes := grounded.status_of_loser foundMem isConfirmed updateMem isRow
      right
      rw [isRow, ← kindEq, ← demotes]
      exact hasStatus_writeStatus present _
    · exact .inl later
  · exact .inr (keeps _ written)

/-! ## Passes -/

/-- A status that the step writes back, rather than to demote a loser, is still
the stored one. -/
def WritesBackFresh (world : World) : PassEvent → Prop
  | .status task _ =>
    match world.tasks task with
    | .writing plan (update :: _) =>
      update.status = plan.kind.demoted ∨ (world.memories.lookup update.memoryId).all
          (fun row => row.status == update.status) = true
    | _ => True
  | _ => True

instance (world : World) (event : PassEvent) : Decidable (WritesBackFresh world event) := by
  unfold WritesBackFresh
  split
  · split <;> infer_instance
  · infer_instance

theorem World.Demoted.passMove {text : TextOps} {event : PassEvent} (grounded : world.Grounded)
    (demoted : world.Demoted kind) (fresh : WritesBackFresh world event)
    (move : PassMove text (fun _ => kind) world event next) : next.Demoted kind := by
  have nextGrounded := grounded.passMove move
  cases move with
  | loaded idle found | missing idle | refused planned =>
    exact demoted.advance (by simp [Task.unwritten])
  | planned loaded admissible =>
    rename_i task fleetId candidates newMemory
    have planGrounded := nextGrounded task
    simp only [World.advance, Function.update_self] at planGrounded
    refine demoted.advance fun plan pending unwritten => ?_
    cases unwritten
    exact Plan.Grounded.demoted planGrounded rfl
  | sent planned =>
    rename_i task plan
    refine demoted.advance fun plan' pending unwritten => ?_
    rw [Task.unwritten_resume] at unwritten
    cases unwritten
    exact demoted task plan plan.updates (by rw [planned]; rfl)
  | failed writing wrote => cases (grounded.lands writing wrote).2.2.2
  | wrote writing wrote continues =>
    rename_i task now plan update pending memories moved nextTask
    obtain ⟨read, suffix, rfl, _⟩ := grounded.lands writing wrote
    have planDemoted := demoted task plan (update :: pending) (by rw [writing]; rfl)
    simp only [WritesBackFresh, writing, planDemoted.1] at fresh
    have keeps := fun id (has : HasStatus world.memories id kind.demoted) =>
      hasStatus_writeFresh plan.tenantId fresh has
    have written := planDemoted.written read (suffix.subset (.head _)) keeps
    refine demoted.write keeps fun plan' pending' unwritten => ?_
    rcases continues with rfl | ⟨target, _, rfl⟩
    · rw [Task.unwritten_resume] at unwritten
      cases unwritten
      exact written
    · cases unwritten
      exact written
  | linked linking =>
    rename_i task plan target update pending
    have keeps := fun id (has : HasStatus world.memories id kind.demoted) =>
      has.memorySetSupersedesIfNull update.memoryId target plan.tenantId
    have planDemoted := demoted task plan pending (by rw [linking]; rfl)
    refine demoted.write keeps fun plan' pending' unwritten => ?_
    rw [Task.unwritten_resume] at unwritten
    cases unwritten
    exact planDemoted.mono keeps

/-- Every task is grounded and its written losers are demoted. -/
structure DemotionInvariant (kind : Kind) (world : World) : Prop where
  grounded : world.Grounded
  demoted : world.Demoted kind

theorem DemotionInvariant.step {text : TextOps} (source : World) (event : PassEvent)
    (target : World) (inv : DemotionInvariant kind source)
    (fresh : WritesBackFresh source event)
    (stepEq : passStep text (fun _ => kind) source event = some target) :
    DemotionInvariant kind target where
  grounded := inv.grounded.passMove (passStep_move stepEq)
  demoted := inv.demoted.passMove inv.grounded fresh (passStep_move stepEq)

/-- In every interleaving of passes in which no status is written back over
another one, each row that a flushed pass decided to demote is outdated. -/
theorem flushed_losers_outdated {text : TextOps} {start reached : World}
    {events : List PassEvent} (idle : ∀ task, start.tasks task = .idle)
    (fresh : GuardedRun (passStep text fun _ => .rdf) WritesBackFresh start events)
    (runEq : run (passStep text fun _ => .rdf) start events = some reached) :
    ∀ task plan, reached.tasks task = .flushed plan → ∀ found ∈ plan.candidates,
        confirmed plan.newMemory plan.byAuthor found = true →
          HasStatus reached.memories (loser plan.newMemory found).id .outdated := by
  have startInv : DemotionInvariant .rdf start := by
    refine ⟨World.grounded_of_idle idle, fun task plan pending unwritten => ?_⟩
    rw [idle task] at unwritten
    contradiction
  have reachedInv : DemotionInvariant .rdf reached :=
    invariant_of_guardedRun DemotionInvariant.step startInv fresh runEq
  intro task plan flushed found foundMem isConfirmed
  obtain ⟨_, losers⟩ := reachedInv.demoted task plan [] (by rw [flushed]; rfl)
  rcases losers found foundMem isConfirmed with unwritten | written
  · simp at unwritten
  · exact written

/-! ## Three values of one slot -/

/-- Three memories that give different values to one attribute. -/
def slotWorld : World where
  memories :=
    { rows := [slotRow (.ofNat 1) 10 "draft", slotRow (.ofNat 2) 20 "review",
        slotRow (.ofNat 3) 30 "final"]
      nodup := by decide }
  agents := fun _ _ => none
  tasks := fun _ => .idle

/-- The pass of the newest memory, alone. -/
def newestPass : List PassEvent :=
  [.load 1 (.ofNat 3) "t", .plan 1 none [{ row := slotRow (.ofNat 1) 10 "draft" },
      { row := slotRow (.ofNat 2) 20 "review" }],
    .send 1, .status 1 40, .status 1 40, .edge 1, .status 1 40]

/-- The pass of the newest memory alone demotes both older ones. -/
theorem newestPass_losers_outdated : ∃ reached plan,
      run (passStep TextOps.ascii fun _ => .rdf) slotWorld newestPass = some reached ∧
      reached.tasks 1 = .flushed plan ∧
      ∀ found ∈ plan.candidates, confirmed plan.newMemory plan.byAuthor found = true →
          HasStatus reached.memories (loser plan.newMemory found).id .outdated := by
  refine ⟨_, _, rfl, rfl, ?_⟩
  exact flushed_losers_outdated (fun _ => rfl)
    (by decide : GuardedRun (passStep TextOps.ascii fun _ => .rdf)
      WritesBackFresh slotWorld newestPass) rfl 1 _ rfl

/-- The pass of the oldest memory reads, the pass of the newest runs through,
and the pass of the oldest flushes what it had read. -/
def racingPasses : List PassEvent :=
  [.load 0 (.ofNat 1) "t", .plan 0 none [{ row := slotRow (.ofNat 2) 20 "review" },
      { row := slotRow (.ofNat 3) 30 "final" }]] ++
    newestPass ++
    [.send 0, .status 0 50, .status 0 50, .edge 0, .status 0 50, .edge 0]

/-- Both passes have flushed, the pass of the newest memory decided to demote
the middle one, and the middle one is active. -/
theorem racingPasses_revive_loser : ∃ reached oldest newest,
      run (passStep TextOps.ascii fun _ => .rdf) slotWorld racingPasses = some reached ∧
      reached.tasks 0 = .flushed oldest ∧ reached.tasks 1 = .flushed newest ∧
      (∃ found ∈ newest.candidates, confirmed newest.newMemory newest.byAuthor found = true ∧
          (loser newest.newMemory found).id = .ofNat 2) ∧
      HasStatus reached.memories (.ofNat 2) .active ∧
      ¬ HasStatus reached.memories (.ofNat 2) .outdated := by
  refine ⟨_, _, _, rfl, rfl, rfl, ?_, ?_, ?_⟩
  · exact ⟨{ row := slotRow (.ofNat 2) 20 "review" }, by decide, by decide, by decide⟩
  · exact ⟨_, rfl, rfl⟩
  · rintro ⟨row, found, statusEq⟩
    cases found
    exact absurd statusEq (by decide)

end Caura.Contradiction
