import Caura.Value.DateTime
import Caura.Value.Json

/-!
# Lifecycle audit rows

A consumer claims an audit row by moving it to `in_progress` with its token, and later records
how its run ended.  One statement decides each call by the row it finds, and one word says what
happened.

Success is final, a claim moves to another consumer only after a terminal write or when it is
older than the lease, and a terminal write needs that the last claim was one's own.  A row that
nobody has claimed takes a terminal write from anyone.
-/

namespace Caura.Lifecycle

open Caura.Value List

/-! ## The statement -/

/-- `status` of a row. -/
inductive RowStatus
  | pending
  | inProgress
  | success
  | failure
  deriving DecidableEq, Repr

/-- The status that a call asks for. -/
inductive CallStatus
  | inProgress
  | success
  | failure
  deriving DecidableEq, Repr

/-- The status that is written. -/
def CallStatus.row : CallStatus → RowStatus
  | .inProgress => .inProgress
  | .success => .success
  | .failure => .failure

/-- A row of `lifecycle_audit`. -/
structure AuditRow where
  orgId : String
  status : RowStatus := .pending
  finishedAt : Option Time := none
  claimedAt : Option Time := none
  claimToken : Option String := none
  stats : Option Json := none
  errorMessage : Option String := none

/-- The arguments of a call, and the time of its transaction. -/
structure FinalizeCall where
  now : Time
  orgId : String
  status : CallStatus
  stats : Option Json := none
  errorMessage : Option String := none
  claimToken : Option String := none

/-- What a finalize call answers. -/
inductive Outcome
  | updated
  | noopSuccess
  | claimConflict
  | claimLost
  | missing
  deriving DecidableEq, Repr

/-- `LIFECYCLE_CLAIM_LEASE_MINUTES`. -/
def lifecycleClaimLease : Time :=
  60 * 60 * 1000000

/-- The columns that a call writes. -/
def FinalizeCall.values (call : FinalizeCall) (row : AuditRow) : AuditRow :=
  let claimed : AuditRow :=
    match call.status with
    | .inProgress =>
      { row with
        finishedAt := none, claimedAt := some call.now, claimToken := call.claimToken }
    | .success | .failure =>
      { row with finishedAt := some call.now }
  { claimed with
    status := call.status.row
    stats := call.stats.or row.stats
    errorMessage :=
      if call.status = .success then none else call.errorMessage.or row.errorMessage }

/-- Whether the claim of a row is older than the lease. -/
def AuditRow.isStale (row : AuditRow) (now : Time) : Bool :=
  row.claimedAt.any fun claimedAt => claimedAt < now - lifecycleClaimLease

/-- The arms under which a row may be claimed. -/
def FinalizeCall.mayClaim (call : FinalizeCall) (row : AuditRow) : Bool :=
  row.status ≠ .inProgress || row.claimedAt.isNone || row.isStale call.now ||
    (call.claimToken.isSome && row.claimToken == call.claimToken)

/-- The gate on terminal writes. -/
def FinalizeCall.mayFinish (call : FinalizeCall) (row : AuditRow) : Bool :=
  call.claimToken.isNone || row.claimToken.isNone || row.claimToken == call.claimToken

/-- The condition of the `UPDATE`. -/
def FinalizeCall.selects (call : FinalizeCall) (row : AuditRow) : Bool :=
  row.orgId == call.orgId && row.status ≠ .success &&
    match call.status with
    | .inProgress => call.mayClaim row
    | .success | .failure => call.mayFinish row

/-- The call ends the run. -/
def CallStatus.isTerminal : CallStatus → Bool
  | .inProgress => false
  | .success | .failure => true

/-- Why no row was updated. -/
def FinalizeCall.cause (call : FinalizeCall) (row : AuditRow) : Outcome :=
  if row.orgId ≠ call.orgId then
    .missing
  else if call.status.isTerminal && call.claimToken.isSome && row.claimToken.isSome &&
      row.claimToken != call.claimToken then
    .claimLost
  else if row.status = .success then
    .noopSuccess
  else
    .claimConflict

/-- `lifecycle_audit_finalize`. -/
def lifecycleAuditFinalize (call : FinalizeCall) (row : AuditRow) : AuditRow × Outcome :=
  if call.selects row then (call.values row, .updated) else (row, call.cause row)

/-- The row after some calls. -/
def rowAfter (row : AuditRow) (calls : List FinalizeCall) : AuditRow :=
  calls.foldl (fun row call => (lifecycleAuditFinalize call row).1) row

/-! ## Claims -/

/-- A call that moves the row to `in_progress`. -/
def FinalizeCall.Claims (call : FinalizeCall) (row : AuditRow) : Prop :=
  call.status = .inProgress ∧ (lifecycleAuditFinalize call row).2 = .updated

/-- A call that writes how a run ended. -/
def FinalizeCall.Finishes (call : FinalizeCall) (row : AuditRow) : Prop :=
  call.status.isTerminal = true ∧ (lifecycleAuditFinalize call row).2 = .updated

instance (call : FinalizeCall) (row : AuditRow) : Decidable (call.Claims row) :=
  inferInstanceAs (Decidable (_ ∧ _))

/-- The calls that moved the row to `in_progress`, in their order. -/
def claims : AuditRow → List FinalizeCall → List FinalizeCall
  | _, [] => []
  | row, call :: calls =>
    if call.Claims row then call :: claims (lifecycleAuditFinalize call row).1 calls
    else claims (lifecycleAuditFinalize call row).1 calls

/-- The outcome of a call names why the row that it found was not updated. -/
def FinalizeCall.Explained (call : FinalizeCall) (row : AuditRow) : Outcome → Prop
  | .updated => True
  | .missing => row.orgId ≠ call.orgId
  | .noopSuccess =>
    row.orgId = call.orgId ∧ row.status = .success ∧
      (call.status.isTerminal = true → row.claimToken = none ∨ row.claimToken = call.claimToken)
  | .claimConflict =>
    row.orgId = call.orgId ∧ call.status = .inProgress ∧ row.status = .inProgress ∧
      row.claimToken ≠ call.claimToken ∧
      ∃ claimedAt, row.claimedAt = some claimedAt ∧ call.now - lifecycleClaimLease ≤ claimedAt
  | .claimLost =>
    row.orgId = call.orgId ∧ call.status.isTerminal = true ∧
      ∃ other, row.claimToken = some other ∧ call.claimToken ≠ some other

/-- What holds along the calls on a row. -/
structure SingleHolder (row : AuditRow) (calls : List FinalizeCall) : Prop where
  final : ∀ before middle after, calls = before ++ middle ++ after →
    (rowAfter row before).status = .success → rowAfter row (before ++ middle) = rowAfter row before
  holder : ∀ before call after token, calls = before ++ call :: after →
    call.Finishes (rowAfter row before) → call.claimToken = some token →
      (claims row before = [] ∧ (row.claimToken = none ∨ row.claimToken = some token)) ∨
        ∃ claim, (claims row before).getLast? = some claim ∧ claim.claimToken = some token
  exclusive : ∀ before first middle second after,
    calls = before ++ first :: (middle ++ second :: after) → first.Claims (rowAfter row before) →
      second.Claims (rowAfter row (before ++ first :: middle)) →
        first.claimToken ≠ second.claimToken →
          (∃ earlier last later, middle = earlier ++ last :: later ∧
            last.Finishes (rowAfter row (before ++ first :: earlier))) ∨
          first.now < second.now - lifecycleClaimLease
  words : ∀ before call after, calls = before ++ call :: after →
    call.Explained (rowAfter row before) (lifecycleAuditFinalize call (rowAfter row before)).2

/-! ## One call -/

section Call

variable {call : FinalizeCall} {row : AuditRow}

theorem finalize_of_selects (selects : call.selects row = true) :
    lifecycleAuditFinalize call row = (call.values row, .updated) :=
  if_pos selects

theorem finalize_of_not_selects (notSelects : call.selects row = false) :
    lifecycleAuditFinalize call row = (row, call.cause row) :=
  if_neg (by rw [notSelects]; decide)

theorem cause_ne_updated (call : FinalizeCall) (row : AuditRow) : call.cause row ≠ .updated := by
  unfold FinalizeCall.cause
  split
  · exact Outcome.noConfusion
  · split
    · exact Outcome.noConfusion
    · split <;> exact Outcome.noConfusion

theorem updated_iff : (lifecycleAuditFinalize call row).2 = .updated ↔ call.selects row = true := by
  cases selects : call.selects row with
  | true => simp [finalize_of_selects selects]
  | false => simp [finalize_of_not_selects selects, cause_ne_updated]

theorem selects_of_success (isSuccess : row.status = .success) : call.selects row = false := by
  simp [FinalizeCall.selects, isSuccess]

/-- The holder of a row after a call. -/
theorem claimToken_finalize (call : FinalizeCall) (row : AuditRow) :
    (lifecycleAuditFinalize call row).1.claimToken =
      if call.Claims row then call.claimToken else row.claimToken := by
  cases selects : call.selects row with
  | false => simp [FinalizeCall.Claims, finalize_of_not_selects selects, cause_ne_updated]
  | true =>
    rw [finalize_of_selects selects]
    cases status : call.status <;>
      simp [FinalizeCall.Claims, FinalizeCall.values, updated_iff, status, selects]

/-- A row that was not updated is as it was. -/
theorem finalize_of_not_updated (notUpdated : (lifecycleAuditFinalize call row).2 ≠ .updated) :
    (lifecycleAuditFinalize call row).1 = row := by
  cases selects : call.selects row with
  | false => rw [finalize_of_not_selects selects]
  | true => exact absurd (updated_iff.mpr selects) notUpdated

/-- A claim fails on a row that another consumer holds. -/
theorem mayClaim_eq_false_iff (hasToken : call.claimToken.isSome = true) :
    call.mayClaim row = false ↔ row.status = .inProgress ∧ row.claimToken ≠ call.claimToken ∧
      ∃ claimedAt, row.claimedAt = some claimedAt ∧ call.now - lifecycleClaimLease ≤ claimedAt := by
  cases claimed : row.claimedAt with
  | none => simp [FinalizeCall.mayClaim, claimed]
  | some claimedAt =>
    simp only [FinalizeCall.mayClaim, AuditRow.isStale, claimed]
    simp
    tauto

theorem FinalizeCall.Claims.mayClaim (isClaim : call.Claims row) : call.mayClaim row = true := by
  obtain ⟨status, updated⟩ := isClaim
  have selects := updated_iff.mp updated
  simp only [FinalizeCall.selects, status, Bool.and_eq_true] at selects
  exact selects.2

/-- A terminal write needs that the row has no other holder. -/
theorem holder_of_finishes {token : String} (finishes : call.Finishes row)
    (isToken : call.claimToken = some token) :
    row.claimToken = none ∨ row.claimToken = some token := by
  obtain ⟨isTerminal, updated⟩ := finishes
  have mayFinish : call.mayFinish row = true := by
    have selects := updated_iff.mp updated
    cases status : call.status <;>
      simp_all [FinalizeCall.selects, CallStatus.isTerminal]
  simpa [FinalizeCall.mayFinish, isToken] using mayFinish

/-- The word for a call that updates nothing says what it found. -/
theorem explained_finalize (hasToken : call.claimToken.isSome = true) :
    call.Explained row (lifecycleAuditFinalize call row).2 := by
  cases selects : call.selects row with
  | true =>
    rw [finalize_of_selects selects]
    trivial
  | false =>
    rw [finalize_of_not_selects selects]
    unfold FinalizeCall.cause
    split
    next otherOrg => exact otherOrg
    next notOther =>
      have sameOrg : row.orgId = call.orgId := not_not.mp notOther
      split
      next lost =>
        simp only [Bool.and_eq_true, bne_iff_ne, Option.isSome_iff_exists] at lost
        obtain ⟨⟨⟨isTerminal, _⟩, other, isOther⟩, different⟩ := lost
        exact ⟨sameOrg, isTerminal, other, isOther, fun same => different (isOther.trans same.symm)⟩
      next notLost =>
        split
        next isSuccess =>
          refine ⟨sameOrg, isSuccess, fun isTerminal => ?_⟩
          cases holder : row.claimToken with
          | none => exact .inl rfl
          | some other => simpa [isTerminal, hasToken, holder] using notLost
        next notSuccess =>
          cases status : call.status with
          | inProgress =>
            have notMay : call.mayClaim row = false := by
              simpa [FinalizeCall.selects, sameOrg, notSuccess, status] using selects
            exact ⟨sameOrg, status, (mayClaim_eq_false_iff hasToken).mp notMay⟩
          | success | failure =>
            simp_all [FinalizeCall.selects, FinalizeCall.mayFinish, CallStatus.isTerminal]

end Call

/-! ## Sequences of calls -/

theorem rowAfter_cons (row : AuditRow) (call : FinalizeCall) (calls : List FinalizeCall) :
    rowAfter row (call :: calls) = rowAfter (lifecycleAuditFinalize call row).1 calls :=
  rfl

theorem rowAfter_append (row : AuditRow) (before after : List FinalizeCall) :
    rowAfter row (before ++ after) = rowAfter (rowAfter row before) after :=
  foldl_append

variable {row : AuditRow}

theorem rowAfter_of_success (isSuccess : row.status = .success) (calls : List FinalizeCall) :
    rowAfter row calls = row := by
  induction calls with
  | nil => rfl
  | cons call calls ih =>
    rwa [rowAfter_cons, finalize_of_not_selects (selects_of_success isSuccess)]

variable {claim call first second : FinalizeCall} {calls middle : List FinalizeCall}

theorem mem_of_mem_claims (isClaim : claim ∈ claims row calls) : claim ∈ calls := by
  induction calls generalizing row with
  | nil => exact isClaim
  | cons call calls ih =>
    rw [claims] at isClaim
    split at isClaim
    · exact mem_cons.mpr ((mem_cons.mp isClaim).imp_right ih)
    · exact .tail _ (ih isClaim)

/-- The holder of a row is the consumer of the last claim. -/
theorem claimToken_rowAfter (row : AuditRow) (calls : List FinalizeCall) :
    (rowAfter row calls).claimToken =
      ((claims row calls).getLast?.map FinalizeCall.claimToken).getD row.claimToken := by
  induction calls generalizing row with
  | nil => rfl
  | cons call calls ih =>
    rw [rowAfter_cons, ih, claimToken_finalize, claims]
    split
    · cases claims (lifecycleAuditFinalize call row).1 calls <;> simp [List.getLast?_cons]
    · rfl

/-- The row is claimed by the consumer of a claim, and was not claimed before it. -/
structure FinalizeCall.Holds (first : FinalizeCall) (row : AuditRow) : Prop where
  status : row.status = .inProgress
  token : row.claimToken = first.claimToken
  claimed : ∃ claimedAt, row.claimedAt = some claimedAt ∧ first.now ≤ claimedAt

theorem FinalizeCall.Claims.finalize_eq (isClaim : call.Claims row) :
    (lifecycleAuditFinalize call row).1 = call.values row := by
  rw [finalize_of_selects (updated_iff.mp isClaim.2)]

theorem FinalizeCall.Claims.holds (isClaim : call.Claims row)
    (sameToken : call.claimToken = first.claimToken) (isLater : first.now ≤ call.now) :
    first.Holds (lifecycleAuditFinalize call row).1 := by
  rw [isClaim.finalize_eq, FinalizeCall.values, isClaim.1]
  exact ⟨rfl, sameToken, call.now, rfl, isLater⟩

/-- Another consumer claims a row only when the claim is older than the lease. -/
theorem FinalizeCall.Holds.stale_of_claims (holds : first.Holds row) (isClaim : second.Claims row)
    (hasToken : second.claimToken.isSome = true)
    (different : first.claimToken ≠ second.claimToken) :
    first.now < second.now - lifecycleClaimLease := by
  obtain ⟨claimedAt, isClaimed, isLater⟩ := holds.claimed
  by_contra notStale
  have notMay : second.mayClaim row = false :=
    (mayClaim_eq_false_iff hasToken).mpr
      ⟨holds.status, holds.token ▸ different, claimedAt, isClaimed,
        (not_lt.mp notStale).trans isLater⟩
  exact Bool.false_ne_true (notMay.symm.trans isClaim.mayClaim)

/-- A consumer holds a row until a terminal write, or until its claim is older than the lease. -/
theorem FinalizeCall.Holds.step (holds : first.Holds row)
    (hasToken : call.claimToken.isSome = true) (isLater : first.now ≤ call.now) :
    first.Holds (lifecycleAuditFinalize call row).1 ∨ call.Finishes row ∨
      first.now < call.now - lifecycleClaimLease := by
  by_cases updated : (lifecycleAuditFinalize call row).2 = .updated
  · cases status : call.status with
    | inProgress =>
      have isClaim : call.Claims row := ⟨status, updated⟩
      by_cases sameToken : call.claimToken = first.claimToken
      · exact .inl (isClaim.holds sameToken isLater)
      · exact .inr (.inr (holds.stale_of_claims isClaim hasToken (Ne.symm sameToken)))
    | success | failure => exact .inr (.inl ⟨by rw [status]; rfl, updated⟩)
  · rw [finalize_of_not_updated updated]
    exact .inl holds

/-- The claims of two consumers are apart. -/
theorem FinalizeCall.Holds.apart (holds : first.Holds row)
    (tokens : ∀ call ∈ middle ++ [second], call.claimToken.isSome = true)
    (clock : (first :: (middle ++ [second])).Pairwise fun earlier later => earlier.now ≤ later.now)
    (isClaim : second.Claims (rowAfter row middle))
    (different : first.claimToken ≠ second.claimToken) :
    (∃ earlier last later, middle = earlier ++ last :: later ∧
        last.Finishes (rowAfter row earlier)) ∨
      first.now < second.now - lifecycleClaimLease := by
  induction middle generalizing row with
  | nil => exact .inr (holds.stale_of_claims isClaim (tokens second (by simp)) different)
  | cons call middle ih =>
    rw [cons_append, forall_mem_cons] at tokens
    rw [cons_append, pairwise_cons, forall_mem_cons, pairwise_cons] at clock
    obtain ⟨⟨isLater, firstClock⟩, callClock, clock⟩ := clock
    rcases holds.step tokens.1 isLater with next | finishes | stale
    · refine (ih next tokens.2 (pairwise_cons.mpr ⟨firstClock, clock⟩) isClaim).imp_left ?_
      rintro ⟨earlier, last, later, rfl, finishes⟩
      exact ⟨call :: earlier, last, later, rfl, finishes⟩
    · exact .inl ⟨[], call, middle, rfl, finishes⟩
    · have before : call.now ≤ second.now := callClock second (by simp)
      exact .inr (stale.trans_le (Int.sub_le_sub_right before _))

/-- Claims have one holder, and success is final. -/
theorem claims_single_holder (row : AuditRow) (calls : List FinalizeCall)
    (tokens : ∀ call ∈ calls, call.claimToken.isSome = true)
    (clock : calls.Pairwise fun earlier later => earlier.now ≤ later.now) :
    SingleHolder row calls where
  final before middle after _ isSuccess := by
    rw [rowAfter_append]
    exact rowAfter_of_success isSuccess middle
  holder before call after token isSplit finishes isToken := by
    have holder := holder_of_finishes finishes isToken
    rw [claimToken_rowAfter] at holder
    cases last : (claims row before).getLast? with
    | none =>
      rw [last] at holder
      exact .inl ⟨List.getLast?_eq_none_iff.mp last, holder⟩
    | some claim =>
      rw [last] at holder
      have isMem : claim ∈ calls := by
        rw [isSplit]
        exact mem_append_left _ (mem_of_mem_claims (mem_of_getLast? last))
      have isNotNone : claim.claimToken ≠ none := Option.isSome_iff_ne_none.mp (tokens claim isMem)
      exact .inr ⟨claim, rfl, holder.resolve_left isNotNone⟩
  exclusive before first middle second after isSplit isClaim isLater different := by
    have regroup : calls = before ++ (first :: (middle ++ [second])) ++ after := by
      simp [isSplit]
    rw [regroup] at tokens clock
    have between : ∀ call ∈ middle ++ [second], call.claimToken.isSome = true := fun call isMem =>
      tokens call (mem_append_left _ (mem_append_right _ (.tail _ isMem)))
    have ordered := (pairwise_append.mp (pairwise_append.mp clock).1).2.1
    have holds := isClaim.holds rfl (le_refl first.now)
    rw [rowAfter_append] at isLater
    rcases holds.apart between ordered isLater different with
      ⟨earlier, last, later, isMiddle, finishes⟩ | stale
    · refine .inl ⟨earlier, last, later, isMiddle, ?_⟩
      rwa [rowAfter_append]
    · exact .inr stale
  words before call after isSplit :=
    explained_finalize (tokens call (by simp [isSplit]))

/-- Two consumers and a redelivery of the first, which finds that its claim was taken over. -/
theorem claims_single_holder_takeover : SingleHolder { orgId := "org" }
      [{ now := 0, orgId := "org", status := .inProgress, claimToken := some "first" },
        { now := 3600000001, orgId := "org", status := .inProgress, claimToken := some "second" },
        { now := 3600000002, orgId := "org", status := .success, claimToken := some "first" }] :=
  claims_single_holder _ _ (by decide) (by decide)

/-- A row that nobody has claimed takes the terminal write of any consumer. -/
theorem unclaimed_row_finished :
    ∃ (row : AuditRow) (call : FinalizeCall) (token : String), row.status = .pending ∧
      call.claimToken = some token ∧ call.Finishes (rowAfter row []) ∧
      ¬∃ claim, (claims row []).getLast? = some claim ∧ claim.claimToken = some token := by
  refine ⟨{ orgId := "org" },
    { now := 0, orgId := "org", status := .success, claimToken := some "first" }, "first", rfl,
    rfl, ⟨rfl, by decide⟩, ?_⟩
  rintro ⟨claim, isLast, _⟩
  cases isLast

end Caura.Lifecycle
