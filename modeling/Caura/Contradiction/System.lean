import Caura.Contradiction.Retraction
import Caura.Transition.Core

/-!
# Concurrent detection

Detection passes and retractions run as independent tasks over one table.  A
task reads its trigger, reads and judges its candidates, and then writes one
row after the other; every storage call is one step, and the steps of different
tasks interleave freely.  What a task has read stays in its state, so a write
may follow from a reading that is no longer true.

`passStep` is the system of detection passes, and `step` adds retractions.  The
kind of each pass is a parameter, and so are the answers of the judges: the
candidates a semantic or entity pass confirmed come with its event.
-/

namespace Caura.Contradiction

open Caura.Value Caura.Memory Caura.Transition

/-! ## Tasks -/

/-- What a pass has read and judged. -/
structure Plan where
  kind : Kind
  newMemory : Row
  byAuthor : ByAuthor
  candidates : List Candidate

namespace Plan

/-- What the loop of the pass accumulates. -/
def loop (plan : Plan) : LoopState :=
  detectionLoop plan.kind plan.newMemory plan.byAuthor
    plan.newMemory.supersedesId plan.candidates

/-- The batch of the pass. -/
def updates (plan : Plan) : List Update :=
  plan.loop.updates.rows

/-- The tenant the pass runs for. -/
def tenantId (plan : Plan) : String :=
  plan.newMemory.tenantId

end Plan

/-- How far a task has come. -/
inductive Task where
  /-- Not started. -/
  | idle
  /-- The trigger is read. -/
  | loaded (newMemory : Row)
  /-- The candidates are read and settled. -/
  | planned (plan : Plan)
  /-- The batch is accepted and these rows of it remain. -/
  | writing (plan : Plan) (pending : List Update)
  /-- The status of a row landed, and its edge is next. -/
  | linking (plan : Plan) (target : Uuid) (update : Update) (pending : List Update)
  /-- The batch is over. -/
  | flushed (plan : Plan)
  /-- A retraction is decided. -/
  | retracting (pair : Retraction)
  /-- The loser is reverted, and the edge is next. -/
  | clearing (pair : Retraction)
  /-- Ended without a flush. -/
  | stopped

/-- The table, the agents' trust levels and the tasks. -/
structure World where
  memories : Memories
  agents : Agents
  tasks : Nat → Task

/-- The world with one task moved on. -/
def World.advance (world : World) (task : Nat) (next : Task) : World :=
  { world with tasks := Function.update world.tasks task next }

/-- The world after a task wrote to the table. -/
def World.write (world : World) (task : Nat) (memories : Memories) (next : Task) : World :=
  { memories := memories
    agents := world.agents
    tasks := Function.update world.tasks task next }

/-! ## Steps of a pass -/

/-- The steps of a pass, named by its task. -/
inductive PassEvent where
  /-- `get_memory` of the trigger. -/
  | load (task : Nat) (memoryId : Uuid) (tenantId : String)
  /-- The candidates, in the order storage answered them, with the authors'
  trust. -/
  | plan (task : Nat) (fleetId : Option String) (candidates : List Candidate)
  /-- The batch is sent and its pointers are checked. -/
  | send (task : Nat)
  /-- The status of the next row. -/
  | status (task : Nat) (now : Timestamp)
  /-- The edge of the row whose status landed. -/
  | edge (task : Nat)

/-- The candidates a pass may settle: those of the triple lookup, in any order,
or rows of the trigger's scope that the judge confirmed. -/
def Admissible (text : TextOps) (memories : Memories) (kind : Kind)
    (newMemory : Row) (fleetId : Option String) (candidates : List Candidate) :
    Prop :=
  match kind with
  | .rdf =>
    candidates.Perm ((rdfCandidates text memories newMemory.tenantId
      newMemory).map fun row => { row := row })
  | .semantic =>
    (candidates.map fun found => found.row.id).Nodup ∧
      ∀ found ∈ candidates, found.row ∈ memories.rows ∧
        detectionScope newMemory.tenantId newMemory.fleetId newMemory found.row
  | .entity =>
    (candidates.map fun found => found.row.id).Nodup ∧
      ∀ found ∈ candidates, found.row ∈ memories.rows ∧
        detectionScope newMemory.tenantId fleetId newMemory found.row

instance (text : TextOps) (memories : Memories) (kind : Kind) (newMemory : Row)
    (fleetId : Option String) (candidates : List Candidate) :
    Decidable (Admissible text memories kind newMemory fleetId candidates) := by
  cases kind <;> dsimp only [Admissible] <;> infer_instance

/-- The task after the rows of its batch up to `pending`. -/
def Task.resume (plan : Plan) : List Update → Task
  | [] => .flushed plan
  | update :: pending => .writing plan (update :: pending)

/-- One step of a pass. -/
def passStep (text : TextOps) (kindOf : Nat → Kind) : Step World PassEvent
  | world, .load task memoryId tenantId =>
    match world.tasks task with
    | .idle =>
      match getMemory world.memories memoryId tenantId with
      | some newMemory => some (world.advance task (.loaded newMemory))
      | none => some (world.advance task .stopped)
    | _ => none
  | world, .plan task fleetId candidates =>
    match world.tasks task with
    | .loaded newMemory =>
      if Admissible text world.memories (kindOf task) newMemory fleetId candidates then
        some (world.advance task (.planned
          { kind := kindOf task
            newMemory := newMemory
            byAuthor := trustByAuthor world.agents newMemory.tenantId
              newMemory (candidates.map Candidate.row)
            candidates := candidates }))
      else
        none
    | _ => none
  | world, .send task =>
    match world.tasks task with
    | .planned plan =>
      if pointersInTenant world.memories plan.tenantId
          (plan.updates.filterMap Update.pointer) then
        some (world.advance task (.resume plan plan.updates))
      else
        some (world.advance task .stopped)
    | _ => none
  | world, .status task now =>
    match world.tasks task with
    | .writing plan (update :: pending) =>
      match memoryUpdateStatus now world.memories update.memoryId
          plan.tenantId update.statusWrite with
      | (memories, .error _) => some (world.write task memories .stopped)
      | (memories, .ok false) => some (world.write task memories (.resume plan pending))
      | (memories, .ok true) =>
        match update.casEdge with
        | none => some (world.write task memories (.resume plan pending))
        | some target => some (world.write task memories (.linking plan target update pending))
    | _ => none
  | world, .edge task =>
    match world.tasks task with
    | .linking plan target update pending =>
      some (world.write task (memorySetSupersedesIfNull world.memories update.memoryId target
          plan.tenantId).1 (.resume plan pending))
    | _ => none

/-- What a step of a pass can do. -/
inductive PassMove (text : TextOps) (kindOf : Nat → Kind) (world : World) :
    PassEvent → World → Prop where
  | loaded {task : Nat} {memoryId : Uuid} {tenantId : String} {newMemory : Row}
      (idle : world.tasks task = .idle)
      (found : getMemory world.memories memoryId tenantId = some newMemory) :
      PassMove text kindOf world (.load task memoryId tenantId)
        (world.advance task (.loaded newMemory))
  | missing {task : Nat} {memoryId : Uuid} {tenantId : String}
      (idle : world.tasks task = .idle) :
      PassMove text kindOf world (.load task memoryId tenantId)
        (world.advance task .stopped)
  | planned {task : Nat} {fleetId : Option String} {candidates : List Candidate}
      {newMemory : Row} (loaded : world.tasks task = .loaded newMemory)
      (admissible : Admissible text world.memories (kindOf task) newMemory fleetId candidates) :
      PassMove text kindOf world (.plan task fleetId candidates)
        (world.advance task (.planned
          { kind := kindOf task
            newMemory := newMemory
            byAuthor := trustByAuthor world.agents newMemory.tenantId newMemory
              (candidates.map Candidate.row)
            candidates := candidates }))
  | sent {task : Nat} {plan : Plan} (planned : world.tasks task = .planned plan) :
      PassMove text kindOf world (.send task)
        (world.advance task (.resume plan plan.updates))
  | refused {task : Nat} {plan : Plan}
      (planned : world.tasks task = .planned plan) :
      PassMove text kindOf world (.send task) (world.advance task .stopped)
  | failed {task : Nat} {now : Timestamp} {plan : Plan} {update : Update}
      {pending : List Update} {memories : Memories} {refusal : StatusError}
      (writing : world.tasks task = .writing plan (update :: pending))
      (wrote : memoryUpdateStatus now world.memories update.memoryId plan.tenantId
        update.statusWrite = (memories, .error refusal)) :
      PassMove text kindOf world (.status task now)
        (world.write task memories .stopped)
  | wrote {task : Nat} {now : Timestamp} {plan : Plan} {update : Update}
      {pending : List Update} {memories : Memories} {moved : Bool} {next : Task}
      (writing : world.tasks task = .writing plan (update :: pending))
      (wrote : memoryUpdateStatus now world.memories update.memoryId plan.tenantId
        update.statusWrite = (memories, .ok moved))
      (continues : next = .resume plan pending ∨ ∃ target, update.casEdge = some target ∧
          next = .linking plan target update pending) :
      PassMove text kindOf world (.status task now)
        (world.write task memories next)
  | linked {task : Nat} {plan : Plan} {target : Uuid} {update : Update}
      {pending : List Update}
      (linking : world.tasks task = .linking plan target update pending) :
      PassMove text kindOf world (.edge task)
        (world.write task (memorySetSupersedesIfNull world.memories update.memoryId target
            plan.tenantId).1 (.resume plan pending))

variable {world next : World} {text : TextOps} {kindOf : Nat → Kind}

theorem passStep_move {event : PassEvent} (stepEq : passStep text kindOf world event = some next) :
    PassMove text kindOf world event next := by
  revert stepEq
  -- One case for each line of the step function that gives a state, in its order.
  fun_cases passStep text kindOf world event <;> intro stepEq <;> try cases stepEq
  next idle found => exact .loaded idle found
  next idle _ => exact .missing idle
  next loaded admissible => exact .planned loaded admissible
  next planned _ => exact .sent planned
  next planned _ => exact .refused planned
  next writing wrote => exact .failed writing wrote
  next writing wrote => exact .wrote writing wrote (.inl rfl)
  next writing wrote => exact .wrote writing wrote (.inl rfl)
  next edge writing wrote => exact .wrote writing wrote (.inr ⟨_, edge, rfl⟩)
  next linking => exact .linked linking

/-! ## The whole system -/

/-- The steps of the system. -/
inductive Event where
  /-- A step of a detection pass. -/
  | pass (event : PassEvent)
  /-- Trust levels change. -/
  | retrust (agents : Agents)
  /-- A retraction reads its pair and asks the judge. -/
  | resolve (task : Nat) (enabled : Bool) (clears : Row → Row → Bool)
  /-- A retraction reverts its loser. -/
  | revert (task : Nat) (now : Timestamp)
  /-- A retraction clears its edge. -/
  | clear (task : Nat)

/-- One step of the system. -/
def step (text : TextOps) (kindOf : Nat → Kind) : Step World Event
  | world, .pass event => passStep text kindOf world event
  | world, .retrust agents => some { world with agents := agents }
  | world, .resolve task enabled clears =>
    match world.tasks task with
    | .loaded newMemory =>
      match resolveRetraction text enabled clears world.memories newMemory with
      | some pair => some (world.advance task (.retracting pair))
      | none => some (world.advance task .stopped)
    | _ => none
  | world, .revert task now =>
    match world.tasks task with
    | .retracting pair =>
      some (world.write task (revertCandidate now world.memories pair) (.clearing pair))
    | _ => none
  | world, .clear task =>
    match world.tasks task with
    | .clearing pair => some (world.write task (clearEdge world.memories pair) .stopped)
    | _ => none

/-- What a step of the system can do. -/
inductive Move (text : TextOps) (kindOf : Nat → Kind) (world : World) :
    World → Prop where
  | pass {event : PassEvent} {next : World}
      (move : PassMove text kindOf world event next) :
      Move text kindOf world next
  | retrusted (agents : Agents) :
      Move text kindOf world { world with agents := agents }
  | resolved {task : Nat} (pair : Retraction) :
      Move text kindOf world (world.advance task (.retracting pair))
  | stands {task : Nat} :
      Move text kindOf world (world.advance task .stopped)
  | reverted {task : Nat} {now : Timestamp} {pair : Retraction} :
      Move text kindOf world
        (world.write task (revertCandidate now world.memories pair) (.clearing pair))
  | cleared {task : Nat} {pair : Retraction} :
      Move text kindOf world
        (world.write task (clearEdge world.memories pair) .stopped)

theorem step_move {event : Event} (stepEq : step text kindOf world event = some next) :
    Move text kindOf world next := by
  revert stepEq
  fun_cases step text kindOf world event <;> intro stepEq <;> try cases stepEq
  · exact .pass (passStep_move stepEq)
  · exact .retrusted _
  · exact .resolved _
  · exact .stands
  · exact .reverted
  · exact .cleared

end Caura.Contradiction
