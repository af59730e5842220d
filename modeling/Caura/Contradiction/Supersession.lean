import Caura.Contradiction.Grounded

/-!
# The supersession graph

Edges are written by passes of every kind, in both directions, from readings
that may be stale, and retractions clear them.  Yet every stored edge goes from
a strictly newer row to a strictly older one, because the order of two rows
depends on columns that no step changes, and no step re-points an edge, because
every edge is written under the compare-and-set.  On rows that all have a
creation time the order is transitive, so the graph has no cycle.
-/

namespace Caura.Contradiction

open Caura.Relation Caura.Value Caura.Memory Caura.Transition Option Table

/-! ## Edges of a table -/

/-- The table has an edge from `owner` to `target`. -/
def Edge (memories : Memories) (owner target : Uuid) : Prop :=
  ∃ row, memories.lookup owner = some row ∧ row.supersedesId = some target

/-- The table has rows with these ids, the second older than the first. -/
def Precedes (memories : Memories) (newer older : Uuid) : Prop :=
  ∃ newerRow olderRow, memories.lookup newer = some newerRow ∧
    memories.lookup older = some olderRow ∧ Older olderRow newerRow

/-- Every edge goes from a newer row to an older row. -/
def EdgesOrdered (memories : Memories) : Prop :=
  ∀ owner target, Edge memories owner target → Precedes memories owner target

variable {memories : Memories}
  {owner first second id third last before after memoryId target : Uuid}

theorem edge_unique (firstEdge : Edge memories owner first)
    (secondEdge : Edge memories owner second) : first = second := by
  obtain ⟨row, found, firstEq⟩ := firstEdge
  obtain ⟨row', found', secondEq⟩ := secondEdge
  rw [found] at found'
  cases found'
  rw [firstEq] at secondEq
  cases secondEq
  rfl

/-- A row never precedes itself. -/
theorem not_precedes_self : ¬ Precedes memories id id := by
  rintro ⟨newer, older, newerFound, olderFound, isOlder⟩
  rw [newerFound] at olderFound
  cases olderFound
  exact isOlder.asymm isOlder

/-- Every row has a creation time. -/
def Dated (memories : Memories) : Prop :=
  ∀ id row, memories.lookup id = some row → row.createdAt.isSome = true

theorem Precedes.trans (dated : Dated memories) (newer : Precedes memories first second)
    (older : Precedes memories second third) : Precedes memories first third := by
  obtain ⟨firstRow, secondRow, firstFound, secondFound, isOlder⟩ := newer
  obtain ⟨secondRow', thirdRow, secondFound', thirdFound, isOlder'⟩ := older
  rw [secondFound] at secondFound'
  cases secondFound'
  exact ⟨firstRow, thirdRow, firstFound, thirdFound,
    isOlder'.trans (dated _ _ thirdFound) (dated _ _ secondFound) (dated _ _ firstFound) isOlder⟩

/-- Along a path of edges the ids get strictly older. -/
theorem precedes_of_path (dated : Dated memories) (ordered : EdgesOrdered memories)
    (path : Relation.TransGen (Edge memories) first last) : Precedes memories first last := by
  induction path with
  | single edge => exact ordered _ _ edge
  | tail _ edge before => exact before.trans dated (ordered _ _ edge)

/-- Ordered edges over dated rows have no cycle. -/
theorem acyclic_of_ordered (dated : Dated memories) (ordered : EdgesOrdered memories) (id : Uuid) :
    ¬ Relation.TransGen (Edge memories) id id := by
  intro cycle
  exact not_precedes_self (precedes_of_path dated ordered cycle)

/-! ## Writes to edges -/

/-- The tables have the same rows, apart from statuses and edges. -/
def SameFixed (memories memories' : Memories) : Prop :=
  ∀ id, (memories'.lookup id).map Row.fixed = (memories.lookup id).map Row.fixed

variable {condition : Row → Bool} {change : Row → Row}

theorem sameFixed_modify (keeps : ∀ row, (change row).id = row.id)
    (keepsFixed : ∀ row, (change row).fixed = row.fixed) :
    SameFixed memories (memories.modify condition change keeps) := by
  intro id
  rw [lookup_modify, map_map]
  congr 1
  funext row
  simp only [Function.comp_apply]
  split
  · exact keepsFixed row
  · rfl

variable {memories memories' : Memories}

section

variable (same : SameFixed memories memories')

include same

theorem SameFixed.lookup {row : Row} (found : memories.lookup id = some row) :
    ∃ row', memories'.lookup id = some row' ∧ row'.fixed = row.fixed := by
  have fixedEq := same id
  rw [found] at fixedEq
  obtain ⟨row', found', rowEq⟩ := map_eq_some_iff.mp fixedEq
  exact ⟨row', found', rowEq⟩

theorem SameFixed.symm : SameFixed memories' memories :=
  fun id => (same id).symm

theorem SameFixed.precedes {newer older : Uuid} (precedes : Precedes memories newer older) :
    Precedes memories' newer older := by
  obtain ⟨newerRow, olderRow, newerFound, olderFound, isOlder⟩ := precedes
  obtain ⟨newerRow', newerFound', newerFixed⟩ := same.lookup newerFound
  obtain ⟨olderRow', olderFound', olderFixed⟩ := same.lookup olderFound
  exact ⟨newerRow', olderRow', newerFound', olderFound',
    (older_of_fixed olderFixed newerFixed).mpr isOlder⟩

theorem SameFixed.dated (dated : Dated memories) : Dated memories' := by
  intro id row found
  obtain ⟨row', found', fixedEq⟩ := same.symm.lookup found
  rw [← Row.createdAt_eq_of_fixed fixedEq]
  exact dated id row' found'

end

/-- What one step may do to the edges: nothing else in a row changes but its
status, a new edge goes to an older row, and it goes on a row without one. -/
structure EdgeStep (memories memories' : Memories) : Prop where
  fixed : SameFixed memories memories'
  added : ∀ owner target, Edge memories' owner target →
    Edge memories owner target ∨
      Precedes memories owner target ∧ ∀ other, ¬ Edge memories owner other

theorem EdgeStep.refl (memories : Memories) : EdgeStep memories memories where
  fixed := fun _ => rfl
  added := fun _ _ edge => .inl edge

theorem EdgeStep.ordered (edgeStep : EdgeStep memories memories')
    (ordered : EdgesOrdered memories) : EdgesOrdered memories' := by
  intro owner target edge
  rcases edgeStep.added owner target edge with kept | ⟨precedes, _⟩
  · exact edgeStep.fixed.precedes (ordered owner target kept)
  · exact edgeStep.fixed.precedes precedes

/-- A step does not re-point an edge. -/
theorem EdgeStep.not_repointed (edgeStep : EdgeStep memories memories')
    (beforeEdge : Edge memories owner before) (afterEdge : Edge memories' owner after) :
    after = before := by
  rcases edgeStep.added owner after afterEdge with kept | ⟨_, none⟩
  · exact edge_unique kept beforeEdge
  · exact absurd beforeEdge (none before)

/-- A rewriting that sets no edge is such a step. -/
theorem edgeStep_modify (keeps : ∀ row, (change row).id = row.id)
    (keepsFixed : ∀ row, (change row).fixed = row.fixed)
    (noEdge : ∀ row target, (change row).supersedesId = some target →
      row.supersedesId = some target) :
    EdgeStep memories (memories.modify condition change keeps) where
  fixed := sameFixed_modify keeps keepsFixed
  added := by
    rintro owner target ⟨row', found', edge⟩
    rw [lookup_modify] at found'
    obtain ⟨row, found, rowEq⟩ := map_eq_some_iff.mp found'
    rw [← rowEq] at edge
    left
    refine ⟨row, found, ?_⟩
    split at edge
    · exact noEdge row target edge
    · exact edge

theorem edgeStep_writeStatus (memories : Memories) (memoryId : Uuid)
    (tenantId : String) (status : Status) :
    EdgeStep memories (writeStatus memories memoryId tenantId status) :=
  edgeStep_modify (Row.setStatus_id status) (Row.fixed_setStatus status) fun _ _ edge => edge

theorem edgeStep_retractSupersedes (memories : Memories) (memoryId : Uuid)
    (status : Status) (tenantId : String) (expected : Uuid) :
    EdgeStep memories (retractSupersedes memories memoryId status tenantId expected).1 := by
  unfold retractSupersedes
  split_ifs
  · exact EdgeStep.refl memories
  · exact edgeStep_modify (unlinkAs_id status) (fixed_unlinkAs status)
      fun _ _ edge => by simp [unlinkAs] at edge

/-- The compare-and-set is such a step when its target is older. -/
theorem edgeStep_memorySetSupersedesIfNull (tenantId : String)
    (precedes : Precedes memories memoryId target) :
    EdgeStep memories (memorySetSupersedesIfNull memories memoryId target tenantId).1 where
  fixed := by
    unfold memorySetSupersedesIfNull
    split_ifs
    · exact sameFixed_modify (linkTo_id target) (fixed_linkTo target)
    · exact fun _ => rfl
  added := by
    rintro owner newTarget ⟨row', found', edge⟩
    rw [lookup_memorySetSupersedesIfNull] at found'
    obtain ⟨row, found, rowEq⟩ := map_eq_some_iff.mp found'
    rw [← rowEq] at edge
    split at edge
    next selected =>
      simp only [unlinked, Bool.and_eq_true, beq_iff_eq, isNone_iff_eq_none] at selected
      obtain ⟨_, ⟨⟨isRow, _⟩, _⟩, noEdge⟩ := selected
      have ownerEq : owner = memoryId :=
        (lookup_eq_some_iff.mp found).2.symm.trans isRow
      have targetEq : target = newTarget := by simpa [linkTo] using edge
      subst owner newTarget
      refine .inr ⟨precedes, ?_⟩
      rintro other ⟨row'', found'', otherEdge⟩
      rw [found] at found''
      cases found''
      rw [noEdge] at otherEdge
      contradiction
    · exact .inl ⟨row, found, edge⟩

/-! ## Steps of the system -/

/-- A planned edge goes to a row that is older in the table. -/
theorem Plan.Grounded.precedes {plan : Plan} (grounded : plan.Grounded memories) {update : Update}
    (updateMem : update ∈ plan.updates) (edge : update.casEdge = some target) :
    Precedes memories update.memoryId target := by
  have planned := grounded.planned updateMem
  rw [planned.guarded.casEdge] at edge
  rcases (planned.edge target edge).2 with
    ⟨older, olderMem, newer, newerMem, rfl, newerId, isOlder⟩
  obtain ⟨olderRow, olderFound, olderFixed, _⟩ := grounded.reads older olderMem
  obtain ⟨newerRow, newerFound, newerFixed, _⟩ := grounded.reads newer newerMem
  exact ⟨newerRow, olderRow, newerId ▸ newerFound, olderFound,
    (older_of_fixed olderFixed newerFixed).mpr isOlder⟩

variable {world next : World} {text : TextOps} {kindOf : Nat → Kind}

theorem edgeStep_passMove {event : PassEvent} (grounded : world.Grounded)
    (move : PassMove text kindOf world event next) : EdgeStep world.memories next.memories := by
  cases move with
  | loaded | missing | planned | sent | refused => exact EdgeStep.refl world.memories
  | failed writing wrote => cases (grounded.lands writing wrote).2.2.2
  | wrote writing wrote continues =>
    obtain ⟨_, _, rfl, _⟩ := grounded.lands writing wrote
    exact edgeStep_writeStatus ..
  | linked linking =>
    rename_i task plan target update pending
    have read := grounded task
    rw [linking] at read
    exact edgeStep_memorySetSupersedesIfNull _
      (read.1.precedes (read.2.1.subset (.head _)) read.2.2)

theorem edgeStep_move (grounded : world.Grounded) (move : Move text kindOf world next) :
    EdgeStep world.memories next.memories := by
  cases move with
  | pass move => exact edgeStep_passMove grounded move
  | retrusted | resolved | stands => exact EdgeStep.refl world.memories
  | reverted =>
    simp only [revertCandidate_eq]
    exact edgeStep_writeStatus ..
  | cleared => exact edgeStep_retractSupersedes ..

/-- What every reached world satisfies. -/
structure GraphInvariant (world : World) : Prop where
  grounded : world.Grounded
  ordered : EdgesOrdered world.memories
  dated : Dated world.memories

theorem GraphInvariant.step (source : World) (event : Event) (target : World)
    (inv : GraphInvariant source) (stepEq : step text kindOf source event = some target) :
    GraphInvariant target := by
  have move := step_move stepEq
  have edgeStep := edgeStep_move inv.grounded move
  exact ⟨inv.grounded.move move, edgeStep.ordered inv.ordered, edgeStep.fixed.dated inv.dated⟩

/-- Starting without edges and with dated rows, in every world that passes and
retractions reach: each edge goes from a row to a distinct one that
`pickOlder` picks from the two in either order, the graph is acyclic, a row has
at most one edge, and no further step re-points an edge. -/
theorem supersession_graph {text : TextOps} {kindOf : Nat → Kind}
    {start reached : World} {events : List Event}
    (idle : ∀ task, start.tasks task = .idle)
    (noEdges : ∀ row ∈ start.memories.rows, row.supersedesId = none)
    (dated : ∀ row ∈ start.memories.rows, row.createdAt.isSome = true)
    (runEq : run (step text kindOf) start events = some reached) :
    (∀ newer ∈ reached.memories.rows, ∀ target, newer.supersedesId = some target →
        ∃ older ∈ reached.memories.rows, older.id = target ∧
          newer.id ≠ older.id ∧ pickOlder newer older = older ∧ pickOlder older newer = older) ∧
      (∀ id, ¬ Relation.TransGen (Edge reached.memories) id id) ∧
      (∀ owner first second, Edge reached.memories owner first →
        Edge reached.memories owner second → first = second) ∧
      ∀ event next, step text kindOf reached event = some next →
        ∀ owner before after, Edge reached.memories owner before →
          Edge next.memories owner after → after = before := by
  have startInv : GraphInvariant start := by
    refine ⟨World.grounded_of_idle idle, ?_, ?_⟩
    · rintro owner target ⟨row, found, edge⟩
      rw [noEdges row (lookup_eq_some_iff.mp found).1] at edge
      contradiction
    · intro id row found
      exact dated row (lookup_eq_some_iff.mp found).1
  have inv : GraphInvariant reached :=
    invariant_of_run GraphInvariant.step startInv runEq
  refine ⟨?_, acyclic_of_ordered inv.dated inv.ordered, fun _ _ _ => edge_unique, ?_⟩
  · intro newer newerMem target edge
    have newerFound : reached.memories.lookup newer.id = some newer :=
      lookup_key newerMem
    rcases inv.ordered newer.id target ⟨newer, newerFound, edge⟩ with
      ⟨newer', older, newerFound', olderFound, isOlder⟩
    rw [newerFound] at newerFound'
    cases newerFound'
    rcases lookup_eq_some_iff.mp olderFound with ⟨olderMem, olderId⟩
    refine ⟨older, olderMem, olderId, fun idEq => ?_,
      pickOlder_of_newer isOlder, pickOlder_of_older isOlder⟩
    have same := eq_of_key_eq newerMem olderMem idEq
    subst same
    exact isOlder.asymm isOlder
  · intro event next stepEq owner before after
    exact (edgeStep_move inv.grounded (step_move stepEq)).not_repointed

/-! ## A pass and its retraction -/

/-- Two memories without triples. -/
def plainWorld : World where
  memories :=
    { rows := [
        { id := .ofNat 1, tenantId := "t", agentId := "a", createdAt := some 10 },
        { id := .ofNat 2, tenantId := "t", agentId := "a", createdAt := some 20 }]
      nodup := by decide }
  agents := fun _ _ => none
  tasks := fun _ => .idle

/-- A semantic pass that links the newer memory to the older one. -/
def semanticPass : List Event :=
  [.pass (.load 0 (.ofNat 2) "t"), .pass (.plan 0 none [{
      row := { id := .ofNat 1, tenantId := "t", agentId := "a",
               createdAt := some 10 }
      confidence := some (9 / 10) }]),
    .pass (.send 0), .pass (.status 0 30), .pass (.status 0 30),
    .pass (.edge 0)]

/-- The pass writes an edge, which a retraction then clears. -/
theorem supersession_graph_semantic : ∃ linked cleared,
      run (step TextOps.ascii fun _ => .semantic) plainWorld semanticPass = some linked ∧
      run (step TextOps.ascii fun _ => .semantic) plainWorld
        (semanticPass ++ [.pass (.load 1 (.ofNat 2) "t"),
          .resolve 1 true fun _ _ => true, .revert 1 40, .clear 1]) =
        some cleared ∧
      Edge linked.memories (.ofNat 2) (.ofNat 1) ∧
      (∀ id, ¬ Relation.TransGen (Edge linked.memories) id id) ∧
      cleared.memories.rows.all (fun row => row.supersedesId.isNone) = true := by
  refine ⟨_, _, rfl, rfl, ⟨_, rfl, rfl⟩, ?_, by decide⟩
  have linkedRun : run (step TextOps.ascii fun _ => .semantic) plainWorld
      semanticPass = some _ := rfl
  exact (supersession_graph (fun _ => rfl) (by decide) (by decide) linkedRun).2.1

end Caura.Contradiction
