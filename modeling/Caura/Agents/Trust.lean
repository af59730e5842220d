import Caura.Agents.Table
import Caura.Transition.Lock

/-!
# The trust of a deleted agent

A tombstone stands from a delete until a trust above 0 is set, and keeps a registration from
giving the id more.  Three statements go by something older or do not ask: a backfill inserts at
trust 1 whether or not there is a tombstone, a registration that finds the row may have read the
tombstone before a delete, and a delete may come to its tombstone after the row that it has
selected was replaced and approved.
-/

namespace Caura.Agents

open Caura.Transition Option

/-- An id that was deleted has no trust. -/
def Untrusted (table : Table) : Prop :=
  table.deleted = true → ∀ row ∈ table.row, row.trustLevel ≤ 0

/-- A registration that asks for a trust above 0 locks a row while the tombstone is as it has
read it, a backfill inserts no row of an id with a tombstone, and a delete that has removed no row
writes a tombstone only where there is one. -/
def Phase.Timely (table : Table) (answer : Answer) : Phase → Prop
  | .relocking data createOnly tombstoned =>
    createOnly = false → (data.trustLevel.any fun level => 0 < level) = true →
      table.tombstoned = true → tombstoned = true
  | .backfilling => table.row = none → answer.memory.isSome = true → table.tombstoned = false
  | .marking removed => removed = false → table.tombstoned = true
  | _ => True

instance (table : Table) (answer : Answer) (phase : Phase) :
    Decidable (phase.Timely table answer) := by
  cases phase <;> dsimp only [Phase.Timely] <;> infer_instance

/-- Every statement of a run is timely. -/
def Timely (pool : Pool Table Thread) : ThreadEvent Call Answer → Prop
  | .start _ _ => True
  | .advance pid answer => ∀ thread ∈ pool.threads pid, thread.phase.Timely pool.store answer

instance : DecidableRel Timely := fun pool event => by
  cases event <;> dsimp only [Timely] <;> infer_instance

/-! ## Locks -/

theorem rowLockSafe :
    agentSystem.LockSafe Table.locked (fun thread => thread.txn.holds) fun _ _ => True := by
  refine ThreadSystem.lockSafe_of_changes (fun _ _ => ⟨rfl, trivial⟩)
    (fun _ _ _ _ _ acted => ?_) (fun _ _ _ _ _ _ _ => trivial)
    (fun _ _ _ _ _ _ _ _ _ _ => trivial)
  cases effect_of_act acted with
  | quiet sameRow _ | tombstone _ sameRow _ => exact .keeps rfl sameRow.symm.trans
  | row isFree _ _ => exact .takes (.inl isFree) rfl
  | commit _ | rollback => exact .frees rfl rfl

theorem tombstoneLockSafe :
    agentSystem.LockSafe Table.tombstoneLocked (fun thread => thread.txn.holdsTombstone)
      fun _ _ => True := by
  refine ThreadSystem.lockSafe_of_changes (fun _ _ => ⟨rfl, trivial⟩)
    (fun _ _ _ _ _ acted => ?_) (fun _ _ _ _ _ _ _ => trivial)
    (fun _ _ _ _ _ _ _ _ _ _ => trivial)
  cases effect_of_act acted with
  | quiet _ sameTombstone => exact .keeps rfl sameTombstone.symm.trans
  | row _ _ noTombstone =>
    refine .keeps rfl fun holds => ?_
    cases noTombstone.symm.trans holds
  | tombstone isFree _ _ => exact .takes (.inl isFree) rfl
  | commit _ | rollback => exact .frees rfl rfl

/-! ## What a call knows -/

/-- A tombstone stands for an id that was deleted, and a row of such an id has no trust. -/
structure Table.Consistent (table : Table) : Prop where
  tombstone : table.tombstoned = table.deleted
  untrusted : Untrusted table

/-- What a transaction may have written when it commits. -/
inductive Ready (table : Table) : Transaction → Prop
  | idle : Ready table {}
  | unwritten : Ready table { holds := true }
  | written {row : AgentRow} (noTrust : table.tombstoned = true → row.trustLevel ≤ 0) :
      Ready table { holds := true, row := some (some row) }
  | removed :
      Ready table
        { holds := true, holdsTombstone := true, row := some none, tombstone := some true
          deleted := some true }
  | remarked (isMarked : table.tombstoned = true) :
      Ready table { holdsTombstone := true, tombstone := some true, deleted := some true }
  | approved {row : AgentRow} :
      Ready table
        { holds := true, holdsTombstone := true, row := some (some row), tombstone := some false
          deleted := some false }
  | unmarked {row : AgentRow} (notMarked : table.tombstoned = false) :
      Ready table { holds := true, row := some (some row), deleted := some false }

/-- What a call knows of its transaction, and of the tombstone. -/
def Thread.Knows (thread : Thread) (table : Table) : Prop :=
  match thread.phase with
  | .checking _ _ true => ∃ row, thread.txn = { holds := true, row := some (some row) }
  | .settling tombstoned =>
    (∃ row, thread.txn = { holds := true, row := some (some row) }) ∧
      (table.tombstoned = true → tombstoned = true)
  | .marking true => thread.txn = { holds := true, row := some none }
  | .unmarking =>
    ∃ row, thread.txn = { holds := true, row := some (some row), deleted := some false }
  | .committing => Ready table thread.txn
  | _ => thread.txn = {}

section Knowledge

variable {table after : Table} {thread next : Thread} {answer : Answer} {txn : Transaction}
  {row read : AgentRow}

theorem Table.Consistent.trust_le (consistent : table.Consistent) (isRow : table.row = some row)
    (isMarked : table.tombstoned = true) : row.trustLevel ≤ 0 :=
  consistent.untrusted (consistent.tombstone ▸ isMarked) row isRow

/-- The commit of a transaction that is ready. -/
theorem Ready.consistent_commit (ready : Ready table txn) (consistent : table.Consistent) :
    (table.commit txn).Consistent := by
  cases ready with
  | idle | unwritten => exact ⟨consistent.tombstone, consistent.untrusted⟩
  | written noTrust =>
    refine ⟨consistent.tombstone, fun isDeleted other isRow => ?_⟩
    cases isRow
    exact noTrust (consistent.tombstone.trans isDeleted)
  | removed | approved => exact ⟨rfl, nofun⟩
  | remarked isMarked =>
    exact ⟨rfl, fun _ => consistent.untrusted (consistent.tombstone.symm.trans isMarked)⟩
  | unmarked notMarked => exact ⟨notMarked, nofun⟩

/-- A transaction without the row leaves the tombstone as it is. -/
theorem Ready.tombstoned_commit (ready : Ready table txn)
    (holdsNone : txn.holds = false ∨ txn.holdsTombstone = false) :
    (table.commit txn).tombstoned = table.tombstoned := by
  cases ready with
  | idle | unwritten | written _ | unmarked _ => rfl
  | remarked isMarked => exact isMarked.symm
  | removed | approved => simp at holdsNone

/-- What a call knows depends on the tombstone alone, and only if it has locked something. -/
theorem Thread.Knows.congr (knows : thread.Knows table)
    (same : thread.txn.holds = true ∨ thread.txn.holdsTombstone = true →
      after.tombstoned = table.tombstoned) : thread.Knows after := by
  obtain ⟨txn, phase⟩ := thread
  cases phase with
  | settling tombstoned =>
    obtain ⟨⟨row, rfl⟩, isRead⟩ := knows
    exact ⟨⟨row, rfl⟩, fun isMarked => isRead ((same (.inl rfl)).symm.trans isMarked)⟩
  | committing =>
    cases knows with
    | idle => exact .idle
    | unwritten => exact .unwritten
    | written noTrust =>
      exact .written fun isMarked => noTrust ((same (.inl rfl)).symm.trans isMarked)
    | removed => exact .removed
    | remarked isMarked => exact .remarked ((same (.inr rfl)).trans isMarked)
    | approved => exact .approved
    | unmarked notMarked => exact .unmarked ((same (.inl rfl)).trans notMarked)
  | checking _ _ inserted => cases inserted <;> exact knows
  | marking removed => cases removed <;> exact knows
  | inserting _ _ | relocking _ _ _ | selectingDelete | deleting _ | selectingTrust _ _
  | updating _ _ _ | unmarking | backfilling | returned | aborted => exact knows

theorem trust_refreshed_le {data : AgentData} {createOnly tombstoned : Bool}
    (consistent : table.Consistent) (isRow : table.row = some row)
    (notCreate : createOnly = false)
    (timely : (Phase.relocking data createOnly tombstoned).Timely table answer)
    (isMarked : table.tombstoned = true) : (data.refreshed tombstoned row).trustLevel ≤ 0 := by
  have noTrust := consistent.trust_le isRow isMarked
  cases tombstoned with
  | true => exact noTrust
  | false =>
    change data.trustLevel.getD row.trustLevel ≤ 0
    cases asked : data.trustLevel with
    | none => exact noTrust
    | some level =>
      by_contra isAbove
      have asks : (data.trustLevel.any fun level => decide (0 < level)) = true := by
        simpa [asked] using isAbove
      cases timely notCreate asks isMarked

theorem trust_withTrust_le {trustLevel : Int} {fleetId : Option String}
    (notAbove : ¬0 < trustLevel) (noTrust : row.trustLevel ≤ 0) :
    (row.withTrust trustLevel fleetId read).trustLevel ≤ 0 := by
  simp only [AgentRow.withTrust]
  split
  · exact noTrust
  · exact Int.not_lt.mp notAbove

section

variable (knows : thread.Knows table) (consistent : table.Consistent)

include knows consistent

theorem consistent_of_act (acted : agentSystem.act table thread answer = some (after, next)) :
    after.Consistent := by
  cases effect_of_act acted with
  | commit isCommitting =>
    rw [Thread.Knows, isCommitting] at knows
    exact knows.consistent_commit consistent
  | quiet _ _ | row _ _ _ | tombstone _ _ _ | rollback =>
    exact ⟨consistent.tombstone, consistent.untrusted⟩

variable (timely : thread.phase.Timely table answer)

include timely

/-- What a call comes to know by a statement that is timely. -/
theorem Thread.Knows.proceed (proceeded : thread.proceed table answer = some (after, next)) :
    next.Knows after := by
  obtain ⟨txn, phase⟩ := thread
  revert proceeded
  -- One case for each line of the function that gives a thread, in its order.
  fun_cases Thread.proceed table ⟨txn, phase⟩ answer <;> intro proceeded <;> subst_vars <;>
    try cases proceeded
  · obtain ⟨_, rfl, rfl⟩ := insert_eq_some proceeded
    exact ⟨_, rfl⟩
  · rfl
  next inserted =>
    cases inserted with
    | false => exact knows
    | true => exact ⟨knows, id⟩
  · obtain ⟨⟨row, rfl⟩, isRead⟩ := knows
    refine .written fun isMarked => ?_
    rw [isRead isMarked]
    exact Int.le_refl 0
  · rfl
  next createOnly tombstoned row isRow =>
    obtain ⟨_, rfl, rfl⟩ := write_eq_some proceeded
    cases createOnly with
    | true => exact .unwritten
    | false =>
      exact .written fun isMarked => trust_refreshed_le consistent isRow rfl timely isMarked
  · cases table.row <;> rfl
  · obtain ⟨_, rfl, rfl⟩ := write_eq_some proceeded
    rfl
  · rfl
  next removed _ =>
    cases removed with
    | true =>
      obtain rfl : txn = _ := knows
      exact .removed
    | false =>
      obtain rfl : txn = _ := knows
      exact .remarked (timely rfl)
  · cases table.row <;> rfl
  · rfl
  next trustLevel fleetId read row isRow =>
    obtain ⟨_, rfl, rfl⟩ := write_eq_some proceeded
    by_cases isAbove : 0 < trustLevel
    · simp only [isAbove]
      exact ⟨_, rfl⟩
    · simp only [isAbove]
      refine .written fun isMarked => trust_withTrust_le isAbove ?_
      exact consistent.trust_le (filter_eq_some_iff.mp isRow).1 isMarked
  · obtain ⟨row, rfl⟩ := knows
    exact .approved
  next notMarked =>
    obtain ⟨row, rfl⟩ := knows
    exact .unmarked (Bool.eq_false_iff.mpr notMarked)
  next hasMemory noRow =>
    obtain ⟨_, rfl, rfl⟩ := insert_eq_some proceeded
    refine .written fun isMarked => ?_
    have notMarked : table.tombstoned = false := timely noRow (by rw [hasMemory]; rfl)
    cases notMarked.symm.trans isMarked
  · exact .idle
  · rfl

theorem Thread.Knows.act (acted : agentSystem.act table thread answer = some (after, next)) :
    after.Consistent ∧ next.Knows after := by
  refine ⟨consistent_of_act knows consistent acted, ?_⟩
  simp only [agentSystem] at acted
  split at acted
  · unfold Thread.fail at acted
    split at acted <;> cases acted
    · rfl
  · exact knows.proceed consistent timely acted

end

/-- A transaction that lacks one of the locks leaves the tombstone as it is. -/
theorem tombstoned_of_act (knows : thread.Knows table)
    (acted : agentSystem.act table thread answer = some (after, next))
    (holdsNone : thread.txn.holds = false ∨ thread.txn.holdsTombstone = false) :
    after.tombstoned = table.tombstoned := by
  cases effect_of_act acted with
  | quiet _ _ | row _ _ _ | tombstone _ _ _ => rfl
  | commit isCommitting =>
    rw [Thread.Knows, isCommitting] at knows
    exact knows.tombstoned_commit holdsNone
  | rollback => rfl

end Knowledge

/-! ## Runs -/

/-- Each lock has one holder. -/
structure Locks (pool : Pool Table Thread) : Prop where
  row : pool.Locked Table.locked (fun thread => thread.txn.holds) fun _ _ => True
  tombstone : pool.Locked Table.tombstoneLocked (fun thread => thread.txn.holdsTombstone)
    fun _ _ => True

/-- The statements of a run that are timely do not disturb what the calls know. -/
theorem agentsFree : agentSystem.InterferenceFree (fun pool event => Timely pool event ∧ Locks pool)
    Table.Consistent Thread.Knows where
  start call _ _ := by
    cases call <;> rfl
  own _ pid _ thread _ _ sound meets isThread acted :=
    (sound.threads pid thread isThread).act sound.store (meets.1 thread isThread) acted
  others pool pid _ thread _ _ sound meets isThread acted other waiting different isWaiting := by
    refine (sound.threads other waiting isWaiting).congr fun holds => ?_
    refine tombstoned_of_act (sound.threads pid thread isThread) acted ?_
    rcases holds with holds | holds
    · refine .inl (Bool.eq_false_iff.mpr fun isToo => different ?_)
      exact (meets.2.row.alone pid other thread waiting isThread isWaiting isToo holds).symm
    · refine .inr (Bool.eq_false_iff.mpr fun isToo => different ?_)
      exact (meets.2.tombstone.alone pid other thread waiting isThread isWaiting isToo
        holds).symm

/-- A table with a row or without, where nothing was deleted, and no call under way. -/
def initialPool (row : Option AgentRow) (nextId : Nat) : Pool Table Thread :=
  ⟨{ row := row, nextId := nextId }, fun _ => none⟩

/-- What holds along a run whose statements are timely. -/
structure Held (pool : Pool Table Thread) : Prop where
  sound : pool.Sound Table.Consistent Thread.Knows
  locks : Locks pool

theorem held_initialPool (row : Option AgentRow) (nextId : Nat) :
    Held (initialPool row nextId) where
  sound := .idle ⟨rfl, nofun⟩
  locks := ⟨.idle _ _ _ _, .idle _ _ _ _⟩

theorem Held.step {pool target : Pool Table Thread} {event : ThreadEvent Call Answer}
    (held : Held pool) (timely : Timely pool event)
    (stepEq : agentSystem.step pool event = some target) : Held target where
  sound := agentsFree.preserved pool event target held.sound ⟨timely, held.locks⟩ stepEq
  locks := ⟨rowLockSafe.preserved pool event target held.locks.row stepEq,
    tombstoneLockSafe.preserved pool event target held.locks.tombstone stepEq⟩

/-- In a run whose statements are timely, a deleted id has no trust until a trust above 0 is
set. -/
theorem deleted_untrusted (row : Option AgentRow) (nextId : Nat)
    (events : List (ThreadEvent Call Answer)) (target : Pool Table Thread)
    (timely : GuardedRun agentSystem.step Timely (initialPool row nextId) events)
    (runEq : run agentSystem.step (initialPool row nextId) events = some target) :
    Untrusted target.store :=
  have held : Held target := invariant_of_guardedRun
    (fun _ _ _ held timely stepEq => Held.step held timely stepEq)
    (held_initialPool row nextId) timely runEq
  held.sound.store.untrusted

/-- The statements of a call that is not interrupted. -/
def alone (pid : Nat) (call : Call) (statements : Nat) : List (ThreadEvent Call Answer) :=
  .start pid call :: List.replicate statements (.advance pid {})

/-- An agent is deleted, and registers again with a trust. -/
def registersAgain : List (ThreadEvent Call Answer) :=
  alone 0 .delete 4 ++ alone 1 (.add { trustLevel := some 2 } false) 4

theorem deleted_untrusted_registersAgain :
    ∃ target, run agentSystem.step (initialPool (some { id := 0, trustLevel := 1 }) 1)
        registersAgain = some target ∧
      target.store.deleted = true ∧ target.store.row.isSome = true ∧ Untrusted target.store := by
  refine ⟨_, rfl, rfl, rfl, ?_⟩
  exact deleted_untrusted (some { id := 0, trustLevel := 1 }) 1 registersAgain _
    (by decide +kernel) rfl

/-- After a run, an id that was deleted has trust. -/
def RegainsTrust (events : List (ThreadEvent Call Answer)) : Prop :=
  ∃ target, run agentSystem.step (initialPool (some { id := 0, trustLevel := 1 }) 1) events =
    some target ∧ ¬Untrusted target.store

/-- A deleted agent has trust again after a backfill from its memories; after a registration that
has looked for a tombstone before the delete and locks the row that another registration has
inserted after it; and after a second delete whose tombstone comes when the id was registered again
and approved. -/
theorem deleted_agent_regains_trust : RegainsTrust (alone 0 .delete 4 ++
        [.start 1 .backfill, .advance 1 { memory := some none }, .advance 1 {}]) ∧
      RegainsTrust (alone 0 (.add { trustLevel := some 2 } false) 2 ++ alone 1 .delete 4 ++
        alone 2 (.add {} false) 4 ++ [.advance 0 {}, .advance 0 {}]) ∧
      RegainsTrust (alone 0 .delete 1 ++ alone 1 .delete 4 ++ alone 2 (.add {} false) 4 ++
        alone 3 (.updateTrustLevel 2 none) 4 ++ [.advance 0 {}, .advance 0 {}, .advance 0 {}]) := by
  unfold RegainsTrust Untrusted
  decide +kernel

end Caura.Agents
