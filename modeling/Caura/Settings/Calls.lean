import Caura.Settings.Merge
import Caura.Transition.Threads

/-!
# Calls that write settings

An update and an encryption of API keys are each one transaction on the row of the
organization.  A read for update waits for the transaction that has locked the row, and locks
nothing if there is no row.  An insert waits for one that is not committed, and does nothing if
there is a row.  What a transaction has written is seen by the others once it commits.

A call can fail at any statement, which rolls its transaction back.  A call that has locked
nothing and written nothing has nothing to commit.
-/

namespace Caura.Settings

open Caura.Value Caura.Transition

/-! ## The tables -/

/-- Who is named in an audit row. -/
structure Actor where
  changedBy : Option String := none
  actorKind : Option String := none
  actorCredentialId : Option String := none

/-- A row of the settings audit. -/
structure AuditRow where
  actor : Actor
  diff : Dict Json

/-- What is committed for an organization, and whether a transaction has locked its row or
inserted one that is not committed. -/
structure Table where
  row : Option Json
  audit : List AuditRow
  locked : Bool := false

/-- A transaction: whether it has the row, and what it has written. -/
structure Transaction where
  holds : Bool := false
  row : Option Json := none
  audit : List AuditRow := []

section Statements

variable (table : Table) (txn : Transaction)

/-- A read for update.  It locks the row if there is one. -/
def Table.lockRow : Option (Table × Transaction) :=
  if table.row.isNone then
    some (table, txn)
  else if table.locked && !txn.holds then
    none
  else
    some ({ table with locked := true }, { txn with holds := true })

/-- An insert that does nothing on a conflict, and whether it has inserted the row. -/
def Table.claimRow (settings : Json) : Option (Table × Transaction × Bool) :=
  if table.row.isSome then
    some (table, txn, false)
  else if table.locked && !txn.holds then
    none
  else
    some ({ table with locked := true }, { txn with holds := true, row := some settings }, true)

/-- An update of the row. -/
def Table.updateRow (settings : Json) : Option (Table × Transaction) :=
  (table.lockRow txn).map fun locked =>
    (locked.1, if table.row.isNone then locked.2 else { locked.2 with row := some settings })

/-- The end of a transaction. -/
def Table.commit : Table where
  row := txn.row.or table.row
  audit := table.audit ++ txn.audit
  locked := table.locked && !txn.holds

/-- Its end without its writes. -/
def Table.rollback : Table :=
  { table with locked := table.locked && !txn.holds }

end Statements

/-! ## Calls -/

/-- A call that writes. -/
inductive Call
  | update (newSettings : Dict Json) (actor : Actor)
  | encryptApiKeys (expected encrypted : Dict String) (changedBy : Option String)

/-- What a call returns. -/
inductive Response
  | settings (settings : Dict Json) (changed : Bool)
  | swapped (names : List String)

/-- The next statement of a call. -/
inductive Phase
  | locking
  | claiming (seeded : Dict Json) (row : AuditRow)
  | relocking
  | updating (merged : Dict Json) (row : AuditRow) (response : Response)
  | auditing (row : AuditRow) (response : Response)
  | committing (response : Response)
  | returned (response : Response)
  | aborted

/-- A call with its transaction. -/
structure Thread where
  call : Call
  txn : Transaction := {}
  phase : Phase := .locking

/-- The end of a call that has written nothing. -/
def Transaction.answering (txn : Transaction) (response : Response) : Phase :=
  if txn.holds then .committing response else .returned response

/-- `_locked_overrides` of the row that was read; a null reads as no row. -/
def lockedOverrides : Option Json → Option (Dict Json)
  | none | some .null => none
  | some (.obj stored) => some stored
  | some _ => some []

/-- Whether a statement succeeds. -/
inductive Answer
  | done
  | failed

section Steps

variable (lower : String → String)

/-- What a call does with the overrides that it has read under the lock. -/
def Call.afterRead (txn : Transaction) (current : Dict Json) : Call → Phase
  | .update newSettings actor =>
    let diff := diffSettings lower current newSettings
    let merged := mergeEntries current newSettings
    if diff.isEmpty then txn.answering (.settings current false)
    else .updating merged ⟨actor, diff⟩ (.settings merged true)
  | .encryptApiKeys expected encrypted changedBy =>
    let swap := swapOf current expected encrypted
    let patch := [("api_keys", .obj swap)]
    if swap.isEmpty then txn.answering (.swapped [])
    else
      .updating (mergeEntries current patch)
        ⟨{ changedBy := changedBy }, diffSettings lower current patch⟩
        (.swapped ((sortKeys swap).map Prod.fst))

/-- What a call does after its first read. -/
def Call.afterFirstRead (txn : Transaction) (row : Option Json) (call : Call) : Phase :=
  match call, lockedOverrides row with
  | .update newSettings actor, none =>
    let seedDiff := diffSettings lower [] newSettings
    if seedDiff.isEmpty then txn.answering (.settings [] false)
    else .claiming (mergeEntries [] newSettings) ⟨actor, seedDiff⟩
  | _, _ => call.afterRead lower txn (overridesOf row)

/-- A thread whose next statement succeeds. -/
def Thread.proceed (table : Table) (thread : Thread) : Option (Table × Thread) :=
  match thread.phase with
  | .locking =>
    (table.lockRow thread.txn).map fun locked =>
      (locked.1, { thread with
        txn := locked.2
        phase := thread.call.afterFirstRead lower locked.2 table.row })
  | .claiming seeded row =>
    (table.claimRow thread.txn (.obj seeded)).map fun claimed =>
      (claimed.1, { thread with
        txn := claimed.2.1
        phase := if claimed.2.2 then .auditing row (.settings seeded true) else .relocking })
  | .relocking =>
    (table.lockRow thread.txn).map fun locked =>
      (locked.1, { thread with
        txn := locked.2
        phase := thread.call.afterRead lower locked.2 (overridesOf table.row) })
  | .updating merged row response =>
    (table.updateRow thread.txn (.obj merged)).map fun updated =>
      (updated.1, { thread with txn := updated.2, phase := .auditing row response })
  | .auditing row response =>
    some (table, { thread with
      txn := { thread.txn with audit := thread.txn.audit ++ [row] }
      phase := .committing response })
  | .committing response =>
    some (table.commit thread.txn, { thread with txn := {}, phase := .returned response })
  | .returned _ | .aborted => none

/-- A thread whose next statement fails. -/
def Thread.fail (table : Table) (thread : Thread) : Option (Table × Thread) :=
  match thread.phase with
  | .returned _ | .aborted => none
  | _ => some (table.rollback thread.txn, { thread with txn := {}, phase := .aborted })

/-- The calls of an organization. -/
def settingsSystem : ThreadSystem Table Thread Call Answer where
  init call := { call := call }
  act table thread answer :=
    match answer with
    | .done => thread.proceed lower table
    | .failed => thread.fail table

end Steps

end Caura.Settings
