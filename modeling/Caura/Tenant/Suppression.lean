import Caura.Value.DateTime
import Mathlib.Data.List.Induction

/-!
# Suppression of a tenant

A tenant is suppressed or restored by events that arrive in any order and more than once.  An
event is applied unless a newer one is stored, so that the latest decision is what counts.
-/

namespace Caura.Tenant

open Caura.Value

/-- A decision on a tenant. -/
inductive Action
  | suppress
  | restore
  deriving DecidableEq, Repr

/-- The row of `tenant_suppression` for one tenant. -/
structure Row where
  suppressedAt : Option Time
  updatedAt : Time
  updatedBy : Option String
  deriving DecidableEq, Repr

/-- One call for the tenant, and the time of its transaction. -/
structure Call where
  action : Action
  updatedBy : Option String := none
  occurredAt : Option Time := none
  now : Time

/-- `COALESCE(CAST(:at AS timestamptz), now())`. -/
def Call.time (call : Call) : Time :=
  call.occurredAt.getD call.now

/-- The values of the `INSERT`. -/
def Call.excluded (call : Call) : Row where
  suppressedAt := if call.action = .suppress then some call.now else none
  updatedAt := call.time
  updatedBy := call.updatedBy

/-- `set_tenant_suppression` for an action that is known, the others raise: the row that it
leaves and returns, and whether it was applied. -/
def setTenantSuppression (row : Option Row) (call : Call) : Row × Bool :=
  match row with
  | none => (call.excluded, true)
  | some row =>
    if row.updatedAt ≤ call.excluded.updatedAt then
      ({ call.excluded with
          suppressedAt :=
            match call.action with
            | .suppress => row.suppressedAt.or call.excluded.suppressedAt
            | .restore => none },
        true)
    else (row, false)

/-- `is_tenant_suppressed`. -/
def isTenantSuppressed (row : Option Row) : Bool :=
  row.any fun row => row.suppressedAt.isSome

/-- The row after some calls, the first of which finds none. -/
def rowAfter (calls : List Call) : Option Row :=
  calls.foldl (fun row call => some (setTenantSuppression row call).1) none

theorem rowAfter_append (calls : List Call) (call : Call) :
    rowAfter (calls ++ [call]) = some (setTenantSuppression (rowAfter calls) call).1 := by
  rw [rowAfter, List.foldl_append]
  rfl

/-- What is stored comes from a call, and no call is newer. -/
structure Row.Latest (row : Row) (calls : List Call) (latest : Call) : Prop where
  isCall : latest ∈ calls
  newest : ∀ call ∈ calls, call.time ≤ latest.time
  time : row.updatedAt = latest.time
  flag : row.suppressedAt.isSome = decide (latest.action = .suppress)

variable {calls : List Call} {call : Call} {row : Row}

theorem setTenantSuppression_of_lt (isOlder : call.time < row.updatedAt) :
    setTenantSuppression (some row) call = (row, false) :=
  if_neg (Int.not_le.mpr isOlder)

theorem Row.Latest.set {latest : Call} (isLatest : row.Latest calls latest) (call : Call) :
    ∃ next, (setTenantSuppression (some row) call).1.Latest (calls ++ [call]) next := by
  rcases Int.lt_or_le call.time row.updatedAt with isOlder | isNewer
  · rw [setTenantSuppression_of_lt isOlder]
    refine ⟨latest, List.mem_append_left _ isLatest.isCall, ?_, isLatest.time, isLatest.flag⟩
    refine List.forall_mem_append.mpr ⟨isLatest.newest, List.forall_mem_singleton.mpr ?_⟩
    exact isLatest.time ▸ Int.le_of_lt isOlder
  · have older : latest.time ≤ call.time := isLatest.time ▸ isNewer
    rw [setTenantSuppression, if_pos (show row.updatedAt ≤ call.excluded.updatedAt from isNewer)]
    refine ⟨call, by simp, List.forall_mem_append.mpr ⟨fun other isOther => ?_, by simp⟩, rfl, ?_⟩
    · exact Int.le_trans (isLatest.newest other isOther) older
    · cases isAction : call.action <;> simp [Call.excluded, isAction]

/-- The calls leave the row of the latest of them. -/
theorem latest_rowAfter (calls : List Call) : calls = [] ∧ rowAfter calls = none ∨
      ∃ row latest, rowAfter calls = some row ∧ row.Latest calls latest := by
  induction calls using List.reverseRecOn with
  | nil => exact .inl ⟨rfl, rfl⟩
  | append_singleton calls call ih =>
    rw [rowAfter_append]
    rcases ih with ⟨rfl, isNone⟩ | ⟨row, latest, isRow, isLatest⟩
    · refine .inr ⟨call.excluded, call, rfl, by simp, by simp, rfl, ?_⟩
      cases isAction : call.action <;> simp [Call.excluded, isAction]
    · obtain ⟨next, isNext⟩ := isLatest.set call
      exact .inr ⟨_, next, congrArg (fun row => some (setTenantSuppression row call).1) isRow,
        isNext⟩

/-- A call is refused exactly if a newer one came before. -/
theorem not_applied_iff (before : List Call) (call : Call) :
    (setTenantSuppression (rowAfter before) call).2 = false ↔
      ∃ earlier ∈ before, call.time < earlier.time := by
  rcases latest_rowAfter before with ⟨rfl, isNone⟩ | ⟨row, latest, isRow, isLatest⟩
  · simp [isNone, setTenantSuppression]
  · have refused : (setTenantSuppression (some row) call).2 = false ↔ call.time < latest.time := by
      rw [← isLatest.time]
      rcases Int.lt_or_le call.time row.updatedAt with isOlder | isNewer
      · simp [setTenantSuppression_of_lt isOlder, isOlder]
      · simp [setTenantSuppression, Call.excluded, isNewer]
    rw [isRow, refused]
    constructor
    · exact fun isOlder => ⟨latest, isLatest.isCall, isOlder⟩
    · rintro ⟨earlier, isEarlier, isOlder⟩
      exact Int.lt_of_lt_of_le isOlder (isLatest.newest earlier isEarlier)

/-- A tenant that stays suppressed keeps the time since when. -/
theorem suppressedAt_setTenantSuppression {row : Option Row}
    (suppressed : isTenantSuppressed row = true)
    (stays : isTenantSuppressed (some (setTenantSuppression row call).1) = true) :
    (setTenantSuppression row call).1.suppressedAt = row.bind Row.suppressedAt := by
  obtain ⟨row, rfl, isSome⟩ := (Option.any_eq_true _ _).mp suppressed
  obtain ⟨since, isSince⟩ := Option.isSome_iff_exists.mp isSome
  rcases Int.lt_or_le call.time row.updatedAt with isOlder | isNewer
  · rw [setTenantSuppression_of_lt isOlder]
    rfl
  · cases isAction : call.action <;>
      simp_all [setTenantSuppression, Call.excluded, isTenantSuppressed]

/-- Where calls for one time agree, the row is that of the latest call whatever the order and the
repetitions, a call is refused exactly if a newer one came before, and a tenant that stays
suppressed keeps the time since when. -/
theorem latest_decision_wins (calls : List Call)
    (distinct : ∀ call ∈ calls, ∀ other ∈ calls, call.time = other.time →
      call.action = other.action) :
    (∀ latest ∈ calls, (∀ call ∈ calls, call.time ≤ latest.time) →
      ∃ row, rowAfter calls = some row ∧ row.updatedAt = latest.time ∧
        isTenantSuppressed (some row) = decide (latest.action = .suppress)) ∧
    ∀ before call after, calls = before ++ call :: after →
      ((setTenantSuppression (rowAfter before) call).2 = false ↔
        ∃ earlier ∈ before, call.time < earlier.time) ∧
      (isTenantSuppressed (rowAfter before) = true →
        isTenantSuppressed (some (setTenantSuppression (rowAfter before) call).1) = true →
          (setTenantSuppression (rowAfter before) call).1.suppressedAt =
            (rowAfter before).bind Row.suppressedAt) := by
  refine ⟨fun latest isCall newest => ?_, fun before call after _ =>
    ⟨not_applied_iff before call, suppressedAt_setTenantSuppression⟩⟩
  rcases latest_rowAfter calls with ⟨rfl, -⟩ | ⟨row, stored, isRow, isStored⟩
  · cases isCall
  · have sameTime : stored.time = latest.time :=
      Int.le_antisymm (newest stored isStored.isCall) (isStored.newest latest isCall)
    refine ⟨row, isRow, isStored.time.trans sameTime, ?_⟩
    rw [← distinct stored isStored.isCall latest isCall sameTime]
    exact isStored.flag

/-- A restore from before the suppression arrives behind it. -/
theorem latest_decision_wins_late :
    ∃ row, rowAfter [⟨.suppress, none, some 2, 7⟩, ⟨.restore, none, some 1, 8⟩,
        ⟨.suppress, none, some 2, 9⟩] = some row ∧ row.updatedAt = 2 ∧
      isTenantSuppressed (some row) = true :=
  (latest_decision_wins _ (by decide)).1 ⟨.suppress, none, some 2, 7⟩ (.head _) (by decide)

end Caura.Tenant
