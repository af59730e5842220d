import Caura.Settings.Calls
import Caura.Transition.Lock
import Caura.Transition.Serial

/-!
# The serial order of calls

The calls of an organization, however they overlap, leave what they would leave one after the
other: each takes effect when its transaction commits, or when it finds no row and writes
nothing.  Between its read and its commit a call is alone with the row, and a call that found
no row and lost the insert to another reads again.

An update whose diff is empty writes nothing, even where its payload would change the
overrides.
-/

namespace Caura.Settings

open Caura.Value Caura.Transition List Option

/-! ## Effects -/

/-- What a call leaves and answers. -/
structure Effect where
  overrides : Dict Json
  audit : List AuditRow
  response : Response

section Effects

variable (lower : String → String)

/-- What a call that is alone does to the overrides. -/
def Call.effect (current : Dict Json) : Call → Effect
  | .update newSettings actor =>
    let diff := diffSettings lower current newSettings
    let merged := mergeEntries current newSettings
    if diff.isEmpty then ⟨current, [], .settings current false⟩
    else ⟨merged, [⟨actor, diff⟩], .settings merged true⟩
  | .encryptApiKeys expected encrypted changedBy =>
    let swap := swapOf current expected encrypted
    let patch := [("api_keys", .obj swap)]
    if swap.isEmpty then ⟨current, [], .swapped []⟩
    else
      ⟨mergeEntries current patch,
        [⟨{ changedBy := changedBy }, diffSettings lower current patch⟩],
        .swapped ((sortKeys swap).map Prod.fst)⟩

/-- The overrides and the audit rows after a call that is alone. -/
def Call.apply (state : Dict Json × List AuditRow) (call : Call) :
    (Dict Json × List AuditRow) × Response :=
  (((call.effect lower state.1).overrides, state.2 ++ (call.effect lower state.1).audit),
    (call.effect lower state.1).response)

/-- A call writes nothing, or it writes the overrides and one audit row. -/
theorem Call.afterRead_cases (txn : Transaction) (current : Dict Json) (call : Call) :
    (∃ response, call.afterRead lower txn current = txn.answering response ∧
      call.effect lower current = ⟨current, [], response⟩) ∨
    ∃ merged row response, call.afterRead lower txn current = .updating merged row response ∧
      call.effect lower current = ⟨merged, [row], response⟩ := by
  cases call with
  | update newSettings actor | encryptApiKeys expected encrypted changedBy =>
    unfold Call.afterRead Call.effect
    dsimp only
    split
    · exact .inl ⟨_, rfl, rfl⟩
    · exact .inr ⟨_, _, _, rfl, rfl⟩

theorem overridesOf_of_lockedOverrides_none {row : Option Json}
    (noOverrides : lockedOverrides row = none) : overridesOf row = [] := by
  unfold lockedOverrides at noOverrides
  split at noOverrides
  · rfl
  · rfl
  · cases noOverrides
  · cases noOverrides

/-- After its first read a call writes nothing, or writes over a row, or goes on to insert
one. -/
theorem Call.afterFirstRead_cases (txn : Transaction) (row : Option Json) (call : Call) :
    (∃ response, call.afterFirstRead lower txn row = txn.answering response ∧
      call.effect lower (overridesOf row) = ⟨overridesOf row, [], response⟩) ∨
    (row.isSome = true ∧ ∃ merged audit response,
      call.afterFirstRead lower txn row = .updating merged audit response ∧
        call.effect lower (overridesOf row) = ⟨merged, [audit], response⟩) ∨
    ∃ seeded audit, call.afterFirstRead lower txn row = .claiming seeded audit ∧
      call.effect lower [] = ⟨seeded, [audit], .settings seeded true⟩ := by
  cases call with
  | update newSettings actor =>
    unfold Call.afterFirstRead
    cases read : lockedOverrides row with
    | none =>
      rw [overridesOf_of_lockedOverrides_none read]
      unfold Call.effect
      dsimp only
      split
      · exact .inl ⟨_, rfl, rfl⟩
      · exact .inr (.inr ⟨_, _, rfl, rfl⟩)
    | some current =>
      have isRow : row.isSome = true := by
        cases row with
        | none => cases read
        | some _ => rfl
      rcases Call.afterRead_cases lower txn (overridesOf row) (.update newSettings actor) with
        answers | updates
      · exact .inl answers
      · exact .inr (.inl ⟨isRow, updates⟩)
  | encryptApiKeys expected encrypted changedBy =>
    rcases Call.afterRead_cases lower txn (overridesOf row)
      (.encryptApiKeys expected encrypted changedBy) with
      answers | ⟨merged, audit, response, isUpdating, isEffect⟩
    · exact .inl answers
    · refine .inr (.inl ⟨?_, merged, audit, response, isUpdating, isEffect⟩)
      cases row with
      | some _ => rfl
      | none => cases congrArg Effect.audit isEffect

end Effects

/-! ## The lock of the row -/

/-- What an action does to the lock: nothing, or it takes a lock that is free or its own, or it
gives its own back. -/
inductive LockMove (table : Table) (txn : Transaction) (after : Table) (next : Transaction) : Prop
  | same (locked : after.locked = table.locked) (holds : next.holds = txn.holds)
  | take (free : table.locked = false ∨ txn.holds = true) (locked : after.locked = true)
      (holds : next.holds = true)
  | release (locked : after.locked = (table.locked && !txn.holds)) (holds : next.holds = false)

/-- A statement leaves alone what is committed. -/
structure Uncommitted (table : Table) (txn : Transaction) (after : Table) (next : Transaction) :
    Prop where
  row : after.row = table.row
  audit : after.audit = table.audit
  lock : LockMove table txn after next

variable {table after : Table}

section Statements

variable {txn next : Transaction} {settings : Json}

section

variable (locks : table.lockRow txn = some (after, next))

include locks

/-- A read for update finds no row, or locks it. -/
theorem lockRow_cases : (table.row = none ∧ after = table ∧ next = txn) ∨
    (table.row.isSome = true ∧ (table.locked = false ∨ txn.holds = true) ∧
      after = { table with locked := true } ∧ next = { txn with holds := true }) := by
  unfold Table.lockRow at locks
  split at locks
  next noRow =>
    cases locks
    exact .inl ⟨isNone_iff_eq_none.mp noRow, rfl, rfl⟩
  next isRow =>
    split at locks <;> cases locks
    next isFree =>
      refine .inr ⟨isSome_iff_ne_none.mpr (by simpa using isRow), ?_, rfl, rfl⟩
      simpa [or_iff_not_imp_left] using isFree

theorem uncommitted_lockRow : Uncommitted table txn after next := by
  rcases lockRow_cases locks with ⟨_, rfl, rfl⟩ | ⟨_, isFree, rfl, rfl⟩
  · exact ⟨rfl, rfl, .same rfl rfl⟩
  · exact ⟨rfl, rfl, .take isFree rfl rfl⟩

theorem written_lockRow :
    next.row = txn.row ∧ next.audit = txn.audit ∧
      (table.row.isSome = true → next.holds = true) := by
  rcases lockRow_cases locks with ⟨noRow, _, rfl⟩ | ⟨_, _, _, rfl⟩
  · exact ⟨rfl, rfl, fun isRow => nomatch isRow.symm.trans (congrArg Option.isSome noRow)⟩
  · exact ⟨rfl, rfl, fun _ => rfl⟩

end

variable {claimed : Bool}

section

variable (claims : table.claimRow txn settings = some (after, next, claimed))

include claims

/-- An insert meets a row, or it has inserted one. -/
theorem claimRow_cases : (table.row.isSome = true ∧ after = table ∧ next = txn ∧ claimed = false) ∨
    (table.row = none ∧ (table.locked = false ∨ txn.holds = true) ∧
      after = { table with locked := true } ∧
      next = { txn with holds := true, row := some settings } ∧ claimed = true) := by
  unfold Table.claimRow at claims
  split at claims
  next isRow =>
    cases claims
    exact .inl ⟨isRow, rfl, rfl, rfl⟩
  next noRow =>
    split at claims <;> cases claims
    next isFree =>
      refine .inr ⟨by simpa using noRow, ?_, rfl, rfl, rfl⟩
      simpa [or_iff_not_imp_left] using isFree

theorem uncommitted_claimRow : Uncommitted table txn after next := by
  rcases claimRow_cases claims with ⟨_, rfl, rfl, _⟩ | ⟨_, isFree, rfl, rfl, _⟩
  · exact ⟨rfl, rfl, .same rfl rfl⟩
  · exact ⟨rfl, rfl, .take isFree rfl rfl⟩

end

/-- An update finds no row, or it has locked and written it. -/
theorem updateRow_cases (updates : table.updateRow txn settings = some (after, next)) :
    (table.row = none ∧ after = table ∧ next = txn) ∨
    (table.row.isSome = true ∧ (table.locked = false ∨ txn.holds = true) ∧
      after = { table with locked := true } ∧
      next = { txn with holds := true, row := some settings }) := by
  obtain ⟨⟨locked, held⟩, locks, isUpdated⟩ := map_eq_some_iff.mp updates
  cases isUpdated
  rcases lockRow_cases locks with ⟨noRow, rfl, rfl⟩ | ⟨isRow, isFree, rfl, rfl⟩
  · refine .inl ⟨noRow, rfl, ?_⟩
    rw [noRow]
    rfl
  · refine .inr ⟨isRow, isFree, rfl, if_neg ?_⟩
    rw [isNone_iff_eq_none]
    exact isSome_iff_ne_none.mp isRow

theorem uncommitted_updateRow (updates : table.updateRow txn settings = some (after, next)) :
    Uncommitted table txn after next := by
  rcases updateRow_cases updates with ⟨_, rfl, rfl⟩ | ⟨_, isFree, rfl, rfl⟩
  · exact ⟨rfl, rfl, .same rfl rfl⟩
  · exact ⟨rfl, rfl, .take isFree rfl rfl⟩

end Statements

variable {lower : String → String} {thread next : Thread} {answer : Answer}

theorem uncommitted_fail (acted : thread.fail table = some (after, next)) :
    Uncommitted table thread.txn after next.txn := by
  unfold Thread.fail at acted
  split at acted <;> cases acted
  · exact ⟨rfl, rfl, .release rfl rfl⟩

section

variable (acted : (settingsSystem lower).act table thread answer = some (after, next))

include acted

/-- An action leaves alone what is committed, or commits. -/
theorem uncommitted_or_commit : Uncommitted table thread.txn after next.txn ∨
      ∃ response, thread.phase = .committing response ∧ after = table.commit thread.txn ∧
        next = { thread with txn := {}, phase := .returned response } := by
  cases answer with
  | failed => exact .inl (uncommitted_fail acted)
  | done =>
    change thread.proceed lower table = some (after, next) at acted
    unfold Thread.proceed at acted
    split at acted
    · obtain ⟨locked, locks, isNext⟩ := map_eq_some_iff.mp acted
      cases isNext
      exact .inl (uncommitted_lockRow locks)
    · obtain ⟨claimed, claims, isNext⟩ := map_eq_some_iff.mp acted
      cases isNext
      exact .inl (uncommitted_claimRow claims)
    · obtain ⟨locked, locks, isNext⟩ := map_eq_some_iff.mp acted
      cases isNext
      exact .inl (uncommitted_lockRow locks)
    · obtain ⟨updated, updates, isNext⟩ := map_eq_some_iff.mp acted
      cases isNext
      exact .inl (uncommitted_updateRow updates)
    · cases acted
      exact .inl ⟨rfl, rfl, .same rfl rfl⟩
    next response isCommitting =>
      cases acted
      exact .inr ⟨response, isCommitting, rfl, rfl⟩
    · cases acted
    · cases acted

theorem lockMove_of_act : LockMove table thread.txn after next.txn := by
  rcases uncommitted_or_commit acted with uncommitted | ⟨_, _, rfl, rfl⟩
  · exact uncommitted.lock
  · exact .release rfl rfl

end

/-! ## What a call knows -/

/-- What a call knows of the row before its next statement. -/
def Thread.Knows (lower : String → String) (thread : Thread) (table : Table) : Prop :=
  match thread.phase with
  | .locking => thread.txn = {}
  | .claiming seeded row =>
    thread.txn.row = none ∧ thread.txn.audit = [] ∧
      thread.call.effect lower [] = ⟨seeded, [row], .settings seeded true⟩
  | .relocking => thread.txn.row = none ∧ thread.txn.audit = [] ∧ table.row.isSome = true
  | .updating merged row response =>
    thread.txn.holds = true ∧ thread.txn.audit = [] ∧ table.row.isSome = true ∧
      thread.call.effect lower (overridesOf table.row) = ⟨merged, [row], response⟩
  | .auditing row response =>
    thread.txn.holds = true ∧ thread.txn.audit = [] ∧
      thread.call.effect lower (overridesOf table.row) =
        ⟨overridesOf (thread.txn.row.or table.row), [row], response⟩
  | .committing response =>
    thread.txn.holds = true ∧
      thread.call.effect lower (overridesOf table.row) =
        ⟨overridesOf (thread.txn.row.or table.row), thread.txn.audit, response⟩
  | .returned _ | .aborted => True

/-- The call and its answer, once it has returned. -/
def Thread.point (thread : Thread) : Option (Call × Response) :=
  match thread.phase with
  | .returned response => some (thread.call, response)
  | _ => none

/-- What is seen of the tables. -/
def Table.view (table : Table) : Dict Json × List AuditRow :=
  (overridesOf table.row, table.audit)

/-- An action that leaves alone what is committed, of a call that does not return. -/
theorem takesEffect_of_uncommitted (uncommitted : Uncommitted table thread.txn after next.txn)
    (samePoint : next.point = thread.point) :
    TakesEffect (Call.apply lower) Table.view Thread.point table thread after next := by
  refine .inl ⟨samePoint, ?_⟩
  rw [Table.view, Table.view, uncommitted.row, uncommitted.audit]

/-- A call that writes nothing returns at once, or goes on to its commit. -/
theorem moves_of_answering {txn : Transaction} {response : Response}
    (uncommitted : Uncommitted table thread.txn after txn) (noPoint : thread.point = none)
    (noRow : txn.row = none) (noAudit : txn.audit = [])
    (isEffect : thread.call.effect lower (overridesOf table.row) =
      ⟨overridesOf table.row, [], response⟩) :
    ({ thread with txn := txn, phase := txn.answering response } : Thread).Knows lower after ∧
      TakesEffect (Call.apply lower) Table.view Thread.point table thread after
        { thread with txn := txn, phase := txn.answering response } := by
  cases isHolder : txn.holds with
  | true =>
    have isPhase : txn.answering response = .committing response := if_pos isHolder
    rw [isPhase]
    refine ⟨⟨isHolder, ?_⟩, takesEffect_of_uncommitted uncommitted noPoint.symm⟩
    rwa [uncommitted.row, noRow, noAudit]
  | false =>
    have isPhase : txn.answering response = .returned response :=
      if_neg (by rw [isHolder]; decide)
    rw [isPhase]
    refine ⟨trivial, .inr ⟨noPoint, thread.call, response, rfl, ?_⟩⟩
    rw [Table.view, Table.view, uncommitted.row, uncommitted.audit, Call.apply, isEffect,
      append_nil]

/-- What a call knows after its next statement, and whether the call has taken effect. -/
theorem moves_of_proceed (knows : thread.Knows lower table)
    (acted : thread.proceed lower table = some (after, next)) :
    next.Knows lower after ∧
      TakesEffect (Call.apply lower) Table.view Thread.point table thread after next := by
  obtain ⟨call, txn, phase⟩ := thread
  cases phase with
  | locking =>
    obtain ⟨⟨locked, held⟩, locks, isNext⟩ := map_eq_some_iff.mp acted
    cases isNext
    cases (knows : txn = {})
    obtain ⟨sameRow, sameAudit, isHolder⟩ := written_lockRow locks
    have uncommitted := uncommitted_lockRow locks
    rcases call.afterFirstRead_cases lower held table.row with
      ⟨response, isPhase, isEffect⟩ | ⟨isRow, merged, audit, response, isPhase, isEffect⟩ |
      ⟨seeded, audit, isPhase, isEffect⟩
    · rw [isPhase]
      exact moves_of_answering uncommitted rfl sameRow sameAudit isEffect
    · rw [isPhase]
      refine ⟨⟨isHolder isRow, sameAudit, ?_⟩, takesEffect_of_uncommitted uncommitted rfl⟩
      rw [uncommitted.row]
      exact ⟨isRow, isEffect⟩
    · rw [isPhase]
      exact ⟨⟨sameRow, sameAudit, isEffect⟩, takesEffect_of_uncommitted uncommitted rfl⟩
  | claiming seeded row =>
    obtain ⟨⟨claimedTable, held, claimed⟩, claims, isNext⟩ := map_eq_some_iff.mp acted
    cases isNext
    obtain ⟨noRow, noAudit, isEffect⟩ := knows
    have uncommitted := uncommitted_claimRow claims
    rcases claimRow_cases claims with ⟨isRow, rfl, rfl, rfl⟩ | ⟨isMissing, _, rfl, rfl, rfl⟩
    · exact ⟨⟨noRow, noAudit, isRow⟩, takesEffect_of_uncommitted uncommitted rfl⟩
    · refine ⟨⟨rfl, noAudit, ?_⟩, takesEffect_of_uncommitted uncommitted rfl⟩
      rwa [isMissing]
  | relocking =>
    obtain ⟨⟨locked, held⟩, locks, isNext⟩ := map_eq_some_iff.mp acted
    cases isNext
    obtain ⟨noRow, noAudit, isRow⟩ := knows
    obtain ⟨sameRow, sameAudit, isHolder⟩ := written_lockRow locks
    have uncommitted := uncommitted_lockRow locks
    rcases call.afterRead_cases lower held (overridesOf table.row) with
      ⟨response, isPhase, isEffect⟩ | ⟨merged, audit, response, isPhase, isEffect⟩
    · rw [isPhase]
      exact moves_of_answering uncommitted rfl (sameRow.trans noRow) (sameAudit.trans noAudit)
        isEffect
    · rw [isPhase]
      refine ⟨⟨isHolder isRow, sameAudit.trans noAudit, ?_⟩,
        takesEffect_of_uncommitted uncommitted rfl⟩
      rw [uncommitted.row]
      exact ⟨isRow, isEffect⟩
  | updating merged row response =>
    obtain ⟨⟨updatedTable, held⟩, updates, isNext⟩ := map_eq_some_iff.mp acted
    cases isNext
    obtain ⟨isHolder, noAudit, isRow, isEffect⟩ := knows
    have uncommitted := uncommitted_updateRow updates
    rcases updateRow_cases updates with ⟨isMissing, _⟩ | ⟨_, _, rfl, rfl⟩
    · cases isRow.symm.trans (congrArg Option.isSome isMissing)
    · exact ⟨⟨rfl, noAudit, isEffect⟩, takesEffect_of_uncommitted uncommitted rfl⟩
  | auditing row response =>
    cases acted
    obtain ⟨isHolder, noAudit, isEffect⟩ := knows
    refine ⟨⟨isHolder, ?_⟩, .inl ⟨rfl, rfl⟩⟩
    rwa [noAudit]
  | committing response =>
    cases acted
    refine ⟨trivial, .inr ⟨rfl, call, response, rfl, ?_⟩⟩
    rw [Table.view, Call.apply, knows.2]
    rfl
  | returned response | aborted => cases acted

/-- A call that fails had not returned, and knows nothing more. -/
theorem moves_of_fail (acted : thread.fail table = some (after, next)) :
    next.Knows lower after ∧
      TakesEffect (Call.apply lower) Table.view Thread.point table thread after next := by
  have uncommitted := uncommitted_fail acted
  unfold Thread.fail at acted
  split at acted <;> cases acted
  next notReturned _ =>
    refine ⟨trivial, takesEffect_of_uncommitted uncommitted ?_⟩
    change none = thread.point
    unfold Thread.point
    split
    next response isReturned => exact absurd isReturned (notReturned response)
    · rfl

section

variable (knows : thread.Knows lower table)

include knows

theorem moves_of_act (acted : (settingsSystem lower).act table thread answer = some (after, next)) :
    next.Knows lower after ∧
      TakesEffect (Call.apply lower) Table.view Thread.point table thread after next := by
  cases answer with
  | done => exact moves_of_proceed knows acted
  | failed => exact moves_of_fail acted

/-- What a call knows depends on the row alone, and without the lock only on whether there is
one. -/
theorem Thread.Knows.of_row (sameRow : after.row = table.row) : thread.Knows lower after := by
  unfold Thread.Knows at knows ⊢
  rwa [sameRow]

theorem Thread.Knows.of_free (free : thread.txn.holds = false)
    (stays : table.row.isSome = true → after.row.isSome = true) : thread.Knows lower after := by
  obtain ⟨call, txn, phase⟩ := thread
  cases phase with
  | locking | claiming => exact knows
  | relocking => exact ⟨knows.1, knows.2.1, stays knows.2.2⟩
  | updating | auditing | committing => cases free.symm.trans knows.1
  | returned | aborted => trivial

end

/-- The lock of the row lets one call at a time between its read and its commit. -/
theorem lockSafe (lower : String → String) :
    (settingsSystem lower).LockSafe Table.locked (fun thread => thread.txn.holds)
      (Thread.Knows lower) := by
  refine ThreadSystem.lockSafe_of_changes (fun _ _ => ⟨rfl, rfl⟩)
    (fun table thread answer after next acted => ?_)
    (fun table thread answer after next acted knows => (moves_of_act knows acted).1)
    (fun table thread answer after next bystander acted knows others alone => ?_)
  · cases lockMove_of_act acted with
    | same locked holds => exact .keeps locked holds.symm.trans
    | take isFree locked _ => exact .takes isFree locked
    | release locked holds => exact .frees locked holds
  · rcases uncommitted_or_commit acted with uncommitted | ⟨response, isCommitting, rfl, rfl⟩
    · exact others.of_row uncommitted.row
    · have isHolder : thread.txn.holds = true := by
        unfold Thread.Knows at knows
        rw [isCommitting] at knows
        exact knows.1
      refine others.of_free (alone isHolder) fun isRow => ?_
      rw [Table.commit, isSome_or, isRow, Bool.or_true]

/-! ## The order of the calls -/

section Order

variable (lower : String → String)

/-- The overrides after calls, one after the other. -/
def overridesAfter (current : Dict Json) (calls : List Call) : Dict Json :=
  calls.foldl (fun current call => (call.effect lower current).overrides) current

/-- The audit rows of calls, one after the other. -/
def auditOf : Dict Json → List Call → List AuditRow
  | _, [] => []
  | current, call :: calls =>
    (call.effect lower current).audit ++ auditOf (call.effect lower current).overrides calls

/-- The calls that have returned, in an order in which each could have been alone. -/
structure SerialOrder (row : Option Json) (audit : List AuditRow) (world : Pool Table Thread)
    (order : List (Point Call Response)) : Prop where
  distinct : (order.map Point.pid).Nodup
  returned : ∀ pid call response, ⟨pid, call, response⟩ ∈ order ↔
    ∃ thread, world.threads pid = some thread ∧ thread.call = call ∧
      thread.phase = .returned response
  stored : overridesOf world.store.row =
    overridesAfter lower (overridesOf row) (order.map Point.call)
  audited : world.store.audit = audit ++ auditOf lower (overridesOf row) (order.map Point.call)
  changed : ∀ before point after settings, order = before ++ point :: after →
    point.response = .settings settings true →
      ∃ newSettings actor, point.call = .update newSettings actor ∧
        let current := overridesAfter lower (overridesOf row) (before.map Point.call)
        .obj settings = mergeSettingsUpdate (.obj current) (.obj newSettings) ∧
        settings = overridesAfter lower (overridesOf row) ((before ++ [point]).map Point.call) ∧
        world.store.audit = audit ++ auditOf lower (overridesOf row) (before.map Point.call) ++
          ⟨actor, diffSettings lower current newSettings⟩ ::
            auditOf lower settings (after.map Point.call)

variable {lower} {current final : Dict Json} {audit finalAudit : List AuditRow}
  {points before after : List (Point Call Response)}

/-- What calls leave that lead from one state to another. -/
theorem eq_of_explains
    (explains : Explains (Call.apply lower) (current, audit) points (final, finalAudit)) :
    final = overridesAfter lower current (points.map Point.call) ∧
      finalAudit = audit ++ auditOf lower current (points.map Point.call) := by
  induction points generalizing current audit with
  | nil =>
    cases explains
    exact ⟨rfl, (append_nil _).symm⟩
  | cons point points ih =>
    obtain ⟨isFinal, isAudit⟩ := ih explains.2
    refine ⟨isFinal, ?_⟩
    rw [isAudit, append_assoc]
    rfl

variable {settings : Dict Json}

/-- A call that answers that it has changed the settings. -/
theorem update_of_changed {call : Call}
    (changed : (call.effect lower current).response = .settings settings true) :
    ∃ newSettings actor, call = .update newSettings actor ∧
      call.effect lower current = ⟨settings, [⟨actor, diffSettings lower current newSettings⟩],
        .settings settings true⟩ ∧
      settings = mergeEntries current newSettings := by
  cases call with
  | update newSettings actor =>
    refine ⟨newSettings, actor, rfl, ?_⟩
    unfold Call.effect at changed ⊢
    dsimp only at changed ⊢
    split at changed <;> cases changed
    next notEmpty =>
      rw [if_neg notEmpty]
      exact ⟨rfl, rfl⟩
  | encryptApiKeys expected encrypted changedBy =>
    unfold Call.effect at changed
    dsimp only at changed
    split at changed <;> cases changed

theorem point_eq_some_iff {thread : Option Thread} {call : Call} {response : Response} :
    thread.bind Thread.point = some (call, response) ↔
      ∃ found, thread = some found ∧ found.call = call ∧ found.phase = .returned response := by
  rw [bind_eq_some_iff]
  refine exists_congr fun found => and_congr_right fun _ => ?_
  unfold Thread.point
  split
  next answered isReturned => simp [isReturned]
  next notReturned => simpa using fun _ => notReturned response

/-- A call that has changed the settings, at its place among the others. -/
theorem changed_of_explains {point : Point Call Response}
    (explains : Explains (Call.apply lower) (current, audit) (before ++ point :: after)
      (final, finalAudit)) (isChanged : point.response = .settings settings true) :
    ∃ newSettings actor, point.call = .update newSettings actor ∧
      let current' := overridesAfter lower current (before.map Point.call)
      .obj settings = mergeSettingsUpdate (.obj current') (.obj newSettings) ∧
      settings = overridesAfter lower current ((before ++ [point]).map Point.call) ∧
      finalAudit = audit ++ auditOf lower current (before.map Point.call) ++
        ⟨actor, diffSettings lower current' newSettings⟩ ::
          auditOf lower settings (after.map Point.call) := by
  obtain ⟨⟨found, trail⟩, first, answers, last⟩ := explains_append.mp explains
  obtain ⟨isFound, isTrail⟩ := eq_of_explains first
  obtain ⟨newSettings, actor, isCall, isEffect, isMerged⟩ :=
    update_of_changed (answers.trans isChanged)
  have applied : Call.apply lower (found, trail) point.call =
      ((settings, trail ++ [⟨actor, diffSettings lower found newSettings⟩]),
        .settings settings true) := by
    rw [Call.apply, isEffect]
  rw [applied] at last
  refine ⟨newSettings, actor, isCall, ?_, ?_, ?_⟩
  · rw [← isFound, isMerged, mergeSettingsUpdate]
  · rw [map_append, overridesAfter, foldl_append]
    change settings = (point.call.effect lower (overridesAfter lower _ _)).overrides
    rw [← isFound, isEffect]
  · rw [(eq_of_explains last).2, isTrail, ← isFound, append_assoc]
    rfl

/-- The calls on the settings of an organization leave what they would leave in some order, one
after the other. -/
theorem settings_calls_serialise (lower : String → String) (row : Option Json)
    (audit : List AuditRow) (events : List (ThreadEvent Call Answer)) (world : Pool Table Thread)
    (ran : run (settingsSystem lower).step ⟨{ row := row, audit := audit }, fun _ => none⟩ events =
      some world) :
    ∃ order, SerialOrder lower row audit world order := by
  obtain ⟨order, serialised⟩ := exists_serialised_of_run (lockSafe lower).preserved (fun _ => rfl)
    (fun pool pid thread input after next sound isThread acted =>
      (moves_of_act (sound.threads pid thread isThread) acted).2)
    (.idle _ _ _ _) ran
  obtain ⟨stored, audited⟩ := eq_of_explains serialised.explains
  refine ⟨order, serialised.distinct, fun pid call response => ?_, stored, audited, ?_⟩
  · exact (serialised.complete pid call response).trans point_eq_some_iff
  · rintro before point after settings rfl isChanged
    exact changed_of_explains serialised.explains isChanged

end Order

/-! ## Two first updates -/

/-- Two updates that both find no row; the second loses the insert and reads again. -/
def firstUpdates : List (ThreadEvent Call Answer) :=
  [.start 0 (.update [("recall", .obj [("depth", .int 3)])] {}),
    .start 1 (.update [("recall", .obj [("window", .int 10)])] {}),
    .advance 0 .done, .advance 1 .done, .advance 0 .done, .advance 0 .done, .advance 0 .done,
    .advance 1 .done, .advance 1 .done, .advance 1 .done, .advance 1 .done, .advance 1 .done]

/-- A thread that has returned settings that it has changed. -/
def Thread.hasChanged (thread : Thread) : Bool :=
  match thread.phase with
  | .returned (.settings _ changed) => changed
  | _ => false

/-- Both updates return that they have changed the settings, in some order. -/
theorem settings_calls_serialise_first :
    ((run (settingsSystem id).step ⟨{ row := none, audit := [] }, fun _ => none⟩ firstUpdates).any
      fun world => (world.threads 0).any Thread.hasChanged &&
        (world.threads 1).any Thread.hasChanged && world.store.audit.length == 2) = true ∧
    ∀ world, run (settingsSystem id).step ⟨{ row := none, audit := [] }, fun _ => none⟩
        firstUpdates = some world →
      ∃ order, SerialOrder id none [] world order :=
  ⟨by decide +kernel, settings_calls_serialise id none [] firstUpdates⟩

/-- An update with an empty object writes nothing, though the merge would add its key. -/
theorem empty_diff_not_merged :
    ∃ world, run (settingsSystem id).step ⟨{ row := none, audit := [] }, fun _ => none⟩
        [.start 0 (.update [("recall", .obj [])] {}), .advance 0 .done] = some world ∧
      (world.threads 0).bind Thread.point =
        some (.update [("recall", .obj [])] {}, .settings [] false) ∧
      .obj (overridesOf world.store.row) ≠
        mergeSettingsUpdate (.obj (overridesOf none)) (.obj [("recall", .obj [])]) := by
  refine ⟨_, rfl, rfl, fun isMerged => ?_⟩
  cases isMerged

end Caura.Settings
