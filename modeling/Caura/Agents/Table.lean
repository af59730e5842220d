import Caura.Transition.Threads

/-!
# Agents and their tombstones

The row of an agent id in a tenant, the tombstone that a delete leaves, and the calls that write
them.  Each call is a transaction of several statements.  A statement sees what is committed and
what its own transaction has written; one that writes or locks the row waits for the transaction
that has it, and so for the tombstone.  A call may fail at any statement, which rolls it back.

The calls on another id touch neither, and a backfill does for this id what it does for each.
-/

namespace Caura.Agents

open Caura.Transition

/-! ## Tables -/

/-- A row of `agents`. -/
structure AgentRow where
  id : Nat
  trustLevel : Int
  fleetId : Option String := none
  displayName : Option String := none
  installId : Option String := none
  ownerInstallUuid : Option String := none
  deriving DecidableEq, Repr

/-- The fields that a registration gives. -/
structure AgentData where
  trustLevel : Option Int := none
  fleetId : Option String := none
  displayName : Option String := none
  installId : Option String := none
  ownerInstallUuid : Option String := none
  deriving DecidableEq, Repr

/-- What is committed of an id, and whether a transaction has its row or its tombstone.  An id
that was deleted counts as such until a trust above 0 is set. -/
structure Table where
  row : Option AgentRow := none
  tombstoned : Bool := false
  locked : Bool := false
  tombstoneLocked : Bool := false
  nextId : Nat := 0
  deleted : Bool := false
  deriving DecidableEq, Repr

/-- A transaction: what it has locked and written, and what its commit makes of an id that counts
as deleted or not. -/
structure Transaction where
  holds : Bool := false
  holdsTombstone : Bool := false
  row : Option (Option AgentRow) := none
  tombstone : Option Bool := none
  deleted : Option Bool := none
  deriving DecidableEq, Repr

/-- The end of a transaction. -/
def Table.commit (table : Table) (txn : Transaction) : Table :=
  { table with
    row := txn.row.getD table.row
    tombstoned := txn.tombstone.getD table.tombstoned
    locked := table.locked && !txn.holds
    tombstoneLocked := table.tombstoneLocked && !txn.holdsTombstone
    deleted := txn.deleted.getD table.deleted }

/-- Its end without its writes. -/
def Table.rollback (table : Table) (txn : Transaction) : Table :=
  { table with
    locked := table.locked && !txn.holds
    tombstoneLocked := table.tombstoneLocked && !txn.holdsTombstone }

/-! ## Calls -/

/-- A call on the agent. -/
inductive Call
  | add (data : AgentData) (createOnly : Bool)
  | delete
  | updateTrustLevel (trustLevel : Int) (fleetId : Option String)
  | backfill
  deriving DecidableEq, Repr

/-- The next statement of a call. -/
inductive Phase
  | inserting (data : AgentData) (createOnly : Bool)
  | checking (data : AgentData) (createOnly inserted : Bool)
  | settling (tombstoned : Bool)
  | relocking (data : AgentData) (createOnly tombstoned : Bool)
  | selectingDelete
  | deleting (id : Nat)
  | marking (removed : Bool)
  | selectingTrust (trustLevel : Int) (fleetId : Option String)
  | updating (trustLevel : Int) (fleetId : Option String) (read : AgentRow)
  | unmarking
  | backfilling
  | committing
  | returned
  | aborted
  deriving DecidableEq, Repr

/-- Where it starts. -/
def Call.phase : Call → Phase
  | .add data createOnly => .inserting data createOnly
  | .delete => .selectingDelete
  | .updateTrustLevel trustLevel fleetId => .selectingTrust trustLevel fleetId
  | .backfill => .backfilling

/-- A call with its transaction. -/
structure Thread where
  txn : Transaction := {}
  phase : Phase
  deriving DecidableEq, Repr

/-- What a statement is told: whether it fails, and the fleet of the oldest live memory of the
agent, if there is one. -/
structure Answer where
  failed : Bool := false
  memory : Option (Option String) := none
  deriving DecidableEq, Repr

/-- The row that a registration inserts. -/
def AgentData.newRow (data : AgentData) (id : Nat) : AgentRow where
  id := id
  trustLevel := data.trustLevel.getD 1
  fleetId := data.fleetId
  displayName := data.displayName
  installId := data.installId
  ownerInstallUuid := data.ownerInstallUuid

/-- What a registration makes of a row that exists. -/
def AgentData.refreshed (data : AgentData) (tombstoned : Bool) (row : AgentRow) : AgentRow :=
  { row with
    fleetId := data.fleetId.or row.fleetId
    trustLevel := if tombstoned then row.trustLevel else data.trustLevel.getD row.trustLevel
    displayName := data.displayName.or row.displayName
    installId := row.installId.or data.installId
    ownerInstallUuid := row.ownerInstallUuid.or data.ownerInstallUuid }

/-- A row at trust 0 if its id has a tombstone. -/
def AgentRow.settled (tombstoned : Bool) (row : AgentRow) : AgentRow :=
  if tombstoned then { row with trustLevel := 0 } else row

/-- What `agent_update_trust_level` makes of a row.  Columns whose values are as they were read
are not written. -/
def AgentRow.withTrust (row : AgentRow) (trustLevel : Int) (fleetId : Option String)
    (read : AgentRow) : AgentRow :=
  { row with
    trustLevel := if read.trustLevel = trustLevel then row.trustLevel else trustLevel
    fleetId := if fleetId.isNone ∨ read.fleetId = fleetId then row.fleetId else fleetId }

section Statements

variable (table : Table)

/-- A transaction that has locked the row and written it. -/
def Table.write (row : Option (Option AgentRow)) (phase : Phase) (deleted : Option Bool) :
    Option (Table × Thread) :=
  if table.locked then none
  else some ({ table with locked := true },
    { txn := { holds := true, row := row, deleted := deleted }, phase := phase })

/-- A transaction that has inserted a row. -/
def Table.insert (row : AgentRow) (phase : Phase) : Option (Table × Thread) :=
  { table with nextId := table.nextId + 1 }.write (some (some row)) phase none

/-- A thread whose next statement succeeds. -/
def Thread.proceed (thread : Thread) (answer : Answer) : Option (Table × Thread) :=
  match thread.phase with
  | .inserting data createOnly =>
    match table.row with
    | none => table.insert (data.newRow table.nextId) (.checking data createOnly true)
    | some _ =>
      if table.locked then none
      else some (table, { thread with phase := .checking data createOnly false })
  | .checking data createOnly inserted =>
    some (table, { thread with
      phase := if inserted then .settling table.tombstoned
        else .relocking data createOnly table.tombstoned })
  | .settling tombstoned =>
    some (table,
      { txn := { thread.txn with
          row := thread.txn.row.map fun row => row.map (AgentRow.settled tombstoned) }
        phase := .committing })
  | .relocking data createOnly tombstoned =>
    match table.row with
    | none => some (table, { thread with phase := .aborted })
    | some row =>
      table.write (if createOnly then none else some (some (data.refreshed tombstoned row)))
        .committing none
  | .selectingDelete =>
    some (table, { thread with
      phase := match table.row with
        | none => .returned
        | some row => .deleting row.id })
  | .deleting id =>
    if table.row.any fun row => row.id = id then
      table.write (some none) (.marking true) none
    else
      some (table, { thread with phase := .marking false })
  | .marking _ =>
    if table.tombstoneLocked then none
    else some ({ table with tombstoneLocked := true },
      { txn := { thread.txn with
          holdsTombstone := true, tombstone := some true, deleted := some true }
        phase := .committing })
  | .selectingTrust trustLevel fleetId =>
    some (table, { thread with
      phase := match table.row with
        | none => .returned
        | some row => .updating trustLevel fleetId row })
  | .updating trustLevel fleetId read =>
    match table.row.filter fun row => row.id = read.id with
    | none => some (table, { thread with phase := .aborted })
    | some row =>
      table.write (some (some (row.withTrust trustLevel fleetId read)))
        (if 0 < trustLevel then .unmarking else .committing)
        (if 0 < trustLevel then some false else none)
  | .unmarking =>
    if table.tombstoned then
      if table.tombstoneLocked then none
      else some ({ table with tombstoneLocked := true },
        { txn := { thread.txn with holdsTombstone := true, tombstone := some false }
          phase := .committing })
    else
      some (table, { thread with phase := .committing })
  | .backfilling =>
    match table.row, answer.memory with
    | none, some fleetId =>
      table.insert { id := table.nextId, trustLevel := 1, fleetId := fleetId } .committing
    | _, _ => some (table, { thread with phase := .committing })
  | .committing => some (table.commit thread.txn, { phase := .returned })
  | .returned | .aborted => none

/-- A thread whose next statement fails. -/
def Thread.fail (thread : Thread) : Option (Table × Thread) :=
  match thread.phase with
  | .returned | .aborted => none
  | _ => some (table.rollback thread.txn, { phase := .aborted })

end Statements

/-- The calls on an id. -/
def agentSystem : ThreadSystem Table Thread Call Answer where
  init call := { phase := call.phase }
  act table thread answer :=
    if answer.failed then thread.fail table else thread.proceed table answer

/-! ## What a statement does -/

/-- A statement locks the row or the tombstone if nobody has it, or ends its transaction, or leaves
the table as it is. -/
inductive Effect (table : Table) (thread : Thread) : Table → Thread → Prop
  | quiet {next : Thread} (sameRow : next.txn.holds = thread.txn.holds)
      (sameTombstone : next.txn.holdsTombstone = thread.txn.holdsTombstone) :
      Effect table thread table next
  | row {nextId : Nat} {next : Thread} (isFree : table.locked = false)
      (holds : next.txn.holds = true) (noTombstone : next.txn.holdsTombstone = false) :
      Effect table thread { table with locked := true, nextId := nextId } next
  | tombstone {next : Thread} (isFree : table.tombstoneLocked = false)
      (sameRow : next.txn.holds = thread.txn.holds) (holds : next.txn.holdsTombstone = true) :
      Effect table thread { table with tombstoneLocked := true } next
  | commit (isCommitting : thread.phase = .committing) :
      Effect table thread (table.commit thread.txn) { phase := .returned }
  | rollback :
      Effect table thread (table.rollback thread.txn) { phase := .aborted }

section Effects

variable {table after : Table} {thread next : Thread} {answer : Answer} {phase : Phase}
  {row : Option (Option AgentRow)} {deleted : Option Bool}

theorem write_eq_some (written : table.write row phase deleted = some (after, next)) :
    table.locked = false ∧ after = { table with locked := true } ∧
      next = { txn := { holds := true, row := row, deleted := deleted }, phase := phase } := by
  unfold Table.write at written
  split at written
  · cases written
  next isFree =>
    obtain ⟨rfl, rfl⟩ := Prod.mk.inj (Option.some.inj written)
    exact ⟨Bool.eq_false_iff.mpr isFree, rfl, rfl⟩

theorem insert_eq_some {row : AgentRow} (inserted : table.insert row phase = some (after, next)) :
    table.locked = false ∧ after = { table with locked := true, nextId := table.nextId + 1 } ∧
      next = { txn := { holds := true, row := some (some row) }, phase := phase } :=
  write_eq_some inserted

theorem effect_of_write (written : table.write row phase deleted = some (after, next)) :
    Effect table thread after next := by
  obtain ⟨isFree, rfl, rfl⟩ := write_eq_some written
  exact .row isFree rfl rfl

theorem effect_of_insert {row : AgentRow} (inserted : table.insert row phase = some (after, next)) :
    Effect table thread after next := by
  obtain ⟨isFree, rfl, rfl⟩ := insert_eq_some inserted
  exact .row isFree rfl rfl

theorem effect_of_proceed (proceeded : thread.proceed table answer = some (after, next)) :
    Effect table thread after next := by
  revert proceeded
  fun_cases Thread.proceed table thread answer <;> intro proceeded <;>
    first | exact effect_of_insert proceeded | exact effect_of_write proceeded | cases proceeded
  all_goals try exact .quiet rfl rfl
  next isFree => exact .tombstone (Bool.eq_false_iff.mpr isFree) rfl rfl
  next isFree => exact .tombstone (Bool.eq_false_iff.mpr isFree) rfl rfl
  next isCommitting => exact .commit isCommitting

theorem effect_of_act (acted : agentSystem.act table thread answer = some (after, next)) :
    Effect table thread after next := by
  simp only [agentSystem] at acted
  split at acted
  · unfold Thread.fail at acted
    split at acted
    · cases acted
    · cases acted
    · cases acted; exact .rollback
  · exact effect_of_proceed acted

end Effects

end Caura.Agents
