import Caura.Lifecycle.Audit
import Caura.Transition.Threads

/-!
# Deliveries of a lifecycle message

A delivery of a pipeline operation asks whether the operation has succeeded lately.  If so it
writes a skip on its audit row; otherwise it claims the row, runs the operation and writes how
that ended.  Deliveries of one message share the row.

The claim keeps the operation from running to its end twice.  The skip is written without a
claim, so it also closes a row that another delivery holds, and the result of that delivery is
then lost.
-/

namespace Caura.Lifecycle

open Caura.Value Caura.Transition FinalizeCall Option

/-! ## Handler -/

/-- An exception of the operation. -/
structure OpFailure where
  message : String
  permanent : Bool
  deriving DecidableEq, Repr

/-- How a delivery ended. -/
inductive Ending
  | skipped
  | alreadyDone
  | conflicted
  | completed (count : Int)
  | failed (permanent : Bool)
  deriving DecidableEq, Repr

/-- Where a delivery waits for storage or for its operation. -/
inductive Phase
  | checking
  | skipping
  | claiming
  | running
  | recording (count : Int)
  | failing (failure : OpFailure)
  | finished (ending : Ending)
  deriving DecidableEq, Repr

/-- A delivery with the token of its invocation. -/
structure Delivery where
  claimToken : String
  phase : Phase := .checking

/-- What a step is told: the time, the answer of the dedup check, and how the operation ended. -/
structure Answer where
  now : Time := 0
  alreadyDone : Bool := false
  op : Except OpFailure Int := .ok 0

/-- The stats of a skip. -/
def skippedStats : Json :=
  .obj [("skipped", .bool true), ("reason", .str "recent_success")]

/-- The stats of a failure. -/
def failureStats (permanent : Bool) : Option Json :=
  if permanent then some (.obj [("terminal", .bool true)]) else none

/-- What a delivery does with the answer to its claim.  A row that is gone does not keep the
operation from running. -/
def afterClaim : Outcome → Phase
  | .noopSuccess => .finished .alreadyDone
  | .claimConflict => .finished .conflicted
  | .updated | .claimLost | .missing => .running

section System

variable (orgId statsKey : String)

/-- The stats of a run. -/
def runStats (count : Int) : Json :=
  .obj [(statsKey, .int count)]

/-- The write of a skip, which has no token. -/
def skipCall (answer : Answer) : FinalizeCall where
  now := answer.now
  orgId := orgId
  status := .success
  stats := some skippedStats

/-- The write of `claim_audit_row`. -/
def claimCall (delivery : Delivery) (answer : Answer) : FinalizeCall where
  now := answer.now
  orgId := orgId
  status := .inProgress
  claimToken := some delivery.claimToken

/-- The write of `write_success`. -/
def successCall (delivery : Delivery) (count : Int) (answer : Answer) : FinalizeCall where
  now := answer.now
  orgId := orgId
  status := .success
  stats := some (runStats statsKey count)
  claimToken := some delivery.claimToken

/-- The write after an exception of the operation. -/
def failureCall (delivery : Delivery) (failure : OpFailure) (answer : Answer) : FinalizeCall where
  now := answer.now
  orgId := orgId
  status := .failure
  stats := failureStats failure.permanent
  errorMessage := some (String.ofList (failure.message.toList.take 500))
  claimToken := some delivery.claimToken

/-- One step of `_run_action`. -/
def Delivery.act (row : AuditRow) (delivery : Delivery) (answer : Answer) :
    Option (AuditRow × Delivery) :=
  match delivery.phase with
  | .checking =>
    some (row, { delivery with phase := if answer.alreadyDone then .skipping else .claiming })
  | .skipping =>
    some ((lifecycleAuditFinalize (skipCall orgId answer) row).1,
      { delivery with phase := .finished .skipped })
  | .claiming =>
    let claimed := lifecycleAuditFinalize (claimCall orgId delivery answer) row
    some (claimed.1, { delivery with phase := afterClaim claimed.2 })
  | .running =>
    match answer.op with
    | .ok count => some (row, { delivery with phase := .recording count })
    | .error failure => some (row, { delivery with phase := .failing failure })
  | .recording count =>
    some ((lifecycleAuditFinalize (successCall orgId statsKey delivery count answer) row).1,
      { delivery with phase := .finished (.completed count) })
  | .failing failure =>
    some ((lifecycleAuditFinalize (failureCall orgId delivery failure answer) row).1,
      { delivery with phase := .finished (.failed failure.permanent) })
  | .finished _ => none

/-- The deliveries for one audit row, each started with its token. -/
def deliverySystem : ThreadSystem AuditRow Delivery String Answer where
  init claimToken := { claimToken := claimToken }
  act := Delivery.act orgId statsKey

end System

/-! ## The record of a run -/

/-- The operation has run to its end. -/
def Phase.completed : Phase → Option Int
  | .recording count | .finished (.completed count) => some count
  | _ => none

/-- At most one delivery ran the operation to its end. -/
def CompletesOnce (pool : Pool AuditRow Delivery) : Prop :=
  ∀ pid other delivery bystander, pool.threads pid = some delivery →
    pool.threads other = some bystander → delivery.phase.completed.isSome = true →
      bystander.phase.completed.isSome = true → pid = other

/-- The row has the result of the delivery that ran the operation to its end. -/
def RecordsRun (statsKey : String) (pool : Pool AuditRow Delivery) : Prop :=
  ∀ pid delivery count, pool.threads pid = some delivery →
    delivery.phase = .finished (.completed count) →
      pool.store.status = .success ∧ pool.store.stats = some (runStats statsKey count)

/-- No claim outlives its lease: a delivery that claims the row finds no stale claim. -/
def InLease (pool : Pool AuditRow Delivery) : ThreadEvent String Answer → Prop
  | .start _ _ => True
  | .advance pid answer =>
    ∀ delivery ∈ pool.threads pid, delivery.phase = .claiming →
      pool.store.status = .inProgress → pool.store.isStale answer.now = false

instance : DecidableRel InLease := fun pool event => by
  cases event <;> dsimp only [InLease] <;> infer_instance

/-- A skip is written only on a row that is not claimed. -/
def SkipsUnclaimed (pool : Pool AuditRow Delivery) : ThreadEvent String Answer → Prop
  | .start _ _ => True
  | .advance pid _ =>
    ∀ delivery ∈ pool.threads pid, delivery.phase = .skipping → pool.store.status ≠ .inProgress

instance : DecidableRel SkipsUnclaimed := fun pool event => by
  cases event <;> dsimp only [SkipsUnclaimed] <;> infer_instance

/-! ## Writes on the row -/

variable {orgId statsKey : String} {row : AuditRow} {delivery : Delivery} {answer : Answer}

section Writes

variable {token : String}

/-- A delivery has claimed the row, and the row is not free again. -/
structure AuditRow.Busy (token : String) (row : AuditRow) : Prop where
  token : row.claimToken = some token
  status : row.status = .inProgress ∧ row.claimedAt.isSome = true ∨ row.status = .success

/-- A claim gets the row, or leaves it and stops the delivery. -/
theorem claimed_or_stopped (sameOrg : row.orgId = orgId) :
    (lifecycleAuditFinalize (claimCall orgId delivery answer) row).2 = .updated ∨
      (lifecycleAuditFinalize (claimCall orgId delivery answer) row).1 = row ∧
        (afterClaim (lifecycleAuditFinalize (claimCall orgId delivery answer) row).2 =
            .finished .alreadyDone ∨
          afterClaim (lifecycleAuditFinalize (claimCall orgId delivery answer) row).2 =
            .finished .conflicted) := by
  have explained : (claimCall orgId delivery answer).Explained row _ := explained_finalize rfl
  have unchanged := @finalize_of_not_updated (claimCall orgId delivery answer) row
  revert explained unchanged
  cases (lifecycleAuditFinalize (claimCall orgId delivery answer) row).2 with
  | updated => exact fun _ _ => .inl rfl
  | noopSuccess => exact fun _ unchanged => .inr ⟨unchanged nofun, .inl rfl⟩
  | claimConflict => exact fun _ unchanged => .inr ⟨unchanged nofun, .inr rfl⟩
  | claimLost => exact fun explained _ => nomatch explained.2.1
  | missing => exact fun explained _ => absurd sameOrg explained

/-- No other delivery claims a busy row. -/
theorem AuditRow.Busy.not_claimed (busy : row.Busy token) (different : delivery.claimToken ≠ token)
    (inLease : row.status = .inProgress → row.isStale answer.now = false) :
    (lifecycleAuditFinalize (claimCall orgId delivery answer) row).2 ≠ .updated := by
  intro updated
  rcases busy.status with ⟨isInProgress, isClaimed⟩ | isSuccess
  · obtain ⟨claimedAt, isClaimed⟩ := isSome_iff_exists.mp isClaimed
    have isRecent : answer.now - lifecycleClaimLease ≤ claimedAt := by
      simpa [AuditRow.isStale, isClaimed] using inLease isInProgress
    have notMay : (claimCall orgId delivery answer).mayClaim row = false := by
      refine (mayClaim_eq_false_iff rfl).mpr
        ⟨isInProgress, fun sameToken => ?_, claimedAt, isClaimed, isRecent⟩
      exact different (some.inj (busy.token.symm.trans sameToken)).symm
    have isClaim : (claimCall orgId delivery answer).Claims row := ⟨rfl, updated⟩
    exact Bool.false_ne_true (notMay.symm.trans isClaim.mayClaim)
  · exact Bool.false_ne_true ((selects_of_success isSuccess).symm.trans (updated_iff.mp updated))

/-- A delivery that has got the row keeps the others off it. -/
theorem busy_of_claimed
    (updated : (lifecycleAuditFinalize (claimCall orgId delivery answer) row).2 = .updated) :
    (lifecycleAuditFinalize (claimCall orgId delivery answer) row).1.Busy delivery.claimToken ∧
      (lifecycleAuditFinalize (claimCall orgId delivery answer) row).1.status = .inProgress := by
  rw [finalize_of_selects (updated_iff.mp updated)]
  exact ⟨⟨rfl, .inl ⟨rfl, rfl⟩⟩, rfl⟩

/-- The holder of the row records its run, unless the row is closed already. -/
theorem recorded_of_busy {count : Int} (sameOrg : row.orgId = orgId)
    (busy : row.Busy delivery.claimToken) :
    let written := (lifecycleAuditFinalize (successCall orgId statsKey delivery count answer) row).1
    written.Busy delivery.claimToken ∧ written.status = .success ∧
      (row.status = .inProgress → written.stats = some (runStats statsKey count)) := by
  rcases busy.status with ⟨isInProgress, _⟩ | isSuccess
  · have selects : (successCall orgId statsKey delivery count answer).selects row = true := by
      simp [selects, mayFinish, successCall, sameOrg, isInProgress, busy.token]
    rw [finalize_of_selects selects]
    exact ⟨⟨busy.token, .inr rfl⟩, rfl, fun _ => rfl⟩
  · rw [finalize_of_not_selects (selects_of_success isSuccess)]
    refine ⟨busy, isSuccess, fun isInProgress => ?_⟩
    cases isSuccess.symm.trans isInProgress

/-- A skip leaves a closed row alone, and closes any other under the token that it has. -/
theorem busy_of_skipped (sameOrg : row.orgId = orgId) (busy : row.Busy token) :
    (lifecycleAuditFinalize (skipCall orgId answer) row).1.Busy token := by
  rcases busy.status with ⟨isInProgress, _⟩ | isSuccess
  · have selects : (skipCall orgId answer).selects row = true := by
      simp [selects, mayFinish, skipCall, sameOrg, isInProgress]
    rw [finalize_of_selects selects]
    exact ⟨busy.token, .inr rfl⟩
  · rwa [finalize_of_not_selects (selects_of_success isSuccess)]

end Writes

/-! ## What a delivery knows -/

/-- What a delivery that has claimed the row knows of it.  When skips are written on unclaimed
rows only, that is also how its run is recorded. -/
def Delivery.Knows (statsKey : String) (quiet : Bool) (delivery : Delivery) (row : AuditRow) :
    Prop :=
  match delivery.phase with
  | .running | .recording _ | .failing _ =>
    row.Busy delivery.claimToken ∧ (quiet = true → row.status = .inProgress)
  | .finished (.completed count) =>
    row.Busy delivery.claimToken ∧ row.status = .success ∧
      (quiet = true → row.stats = some (runStats statsKey count))
  | _ => True

variable {after : AuditRow} {quiet : Bool}

theorem Delivery.Knows.imp (knows : delivery.Knows statsKey quiet row)
    (ofBusy : row.Busy delivery.claimToken → delivery.Knows statsKey quiet after) :
    delivery.Knows statsKey quiet after := by
  obtain ⟨token, phase⟩ := delivery
  cases phase with
  | checking | skipping | claiming => trivial
  | running | recording _ | failing _ => exact ofBusy knows.1
  | finished ending =>
    cases ending with
    | completed count => exact ofBusy knows.1
    | skipped | alreadyDone | conflicted | failed _ => trivial

/-- Where skips are written at any time, a delivery that has not ended knows only its claim. -/
theorem Delivery.Knows.of_busy (knows : delivery.Knows statsKey quiet row)
    (notQuiet : quiet = false) (isInProgress : row.status = .inProgress)
    (busy : after.Busy delivery.claimToken) : delivery.Knows statsKey quiet after := by
  subst notQuiet
  obtain ⟨token, phase⟩ := delivery
  cases phase with
  | checking | skipping | claiming => trivial
  | running | recording _ | failing _ => exact ⟨busy, nofun⟩
  | finished ending =>
    cases ending with
    | completed count => cases isInProgress.symm.trans knows.2.1
    | skipped | alreadyDone | conflicted | failed _ => trivial

/-- What the steps of a run meet: tokens are distinct, claims are in their lease, and skips are
written on unclaimed rows when that is asked for. -/
structure Meets (quiet : Bool) (pool : Pool AuditRow Delivery) (event : ThreadEvent String Answer) :
    Prop where
  distinct : pool.Distinct Delivery.claimToken
  inLease : InLease pool event
  skips : quiet = true → SkipsUnclaimed pool event

section Free

variable {next : AuditRow × Delivery} {bystander : Delivery}

theorem claimToken_act (acted : delivery.act orgId statsKey row answer = some next) :
    next.2.claimToken = delivery.claimToken := by
  obtain ⟨token, phase⟩ := delivery
  cases phase with
  | running =>
    cases isOp : answer.op <;> (simp only [Delivery.act, isOp] at acted; cases acted; rfl)
  | finished _ => cases acted
  | checking | skipping | claiming | recording _ | failing _ => cases acted; rfl

theorem orgId_finalize {call : FinalizeCall} :
    (lifecycleAuditFinalize call row).1.orgId = row.orgId := by
  cases selects : call.selects row with
  | false => rw [finalize_of_not_selects selects]
  | true =>
    rw [finalize_of_selects selects]
    cases status : call.status <;> simp [values, status]

/-- What a delivery comes to know by its step. -/
theorem Delivery.Knows.act (sameOrg : row.orgId = orgId) (knows : delivery.Knows statsKey quiet row)
    (acted : delivery.act orgId statsKey row answer = some next) :
    next.1.orgId = orgId ∧ next.2.Knows statsKey quiet next.1 := by
  obtain ⟨token, phase⟩ := delivery
  cases phase with
  | checking =>
    cases acted
    refine ⟨sameOrg, ?_⟩
    split <;> trivial
  | skipping | failing failure =>
    cases acted
    exact ⟨orgId_finalize.trans sameOrg, trivial⟩
  | claiming =>
    cases acted
    refine ⟨orgId_finalize.trans sameOrg, ?_⟩
    rcases claimed_or_stopped sameOrg with
      updated | ⟨_, stopped | stopped⟩
    · have claimed := busy_of_claimed updated
      rw [updated]
      exact ⟨claimed.1, fun _ => claimed.2⟩
    · rw [stopped]
      trivial
    · rw [stopped]
      trivial
  | running =>
    cases isOp : answer.op <;>
      (simp only [Delivery.act, isOp] at acted; cases acted; exact ⟨sameOrg, knows⟩)
  | recording count =>
    cases acted
    obtain ⟨busy, isSuccess, isRecorded⟩ := recorded_of_busy sameOrg knows.1
    exact ⟨orgId_finalize.trans sameOrg, busy, isSuccess,
      fun isQuiet => isRecorded (knows.2 isQuiet)⟩
  | finished _ => cases acted

/-- What a delivery knows survives the steps of the others. -/
theorem Delivery.Knows.others {pool : Pool AuditRow Delivery} {pid other : Nat}
    (sameOrg : pool.store.orgId = orgId) (meets : Meets quiet pool (.advance pid answer))
    (isThread : pool.threads pid = some delivery)
    (isBystander : pool.threads other = some bystander) (different : other ≠ pid)
    (knows : delivery.Knows statsKey quiet pool.store)
    (bystanderKnows : bystander.Knows statsKey quiet pool.store)
    (acted : delivery.act orgId statsKey pool.store answer = some next) :
    bystander.Knows statsKey quiet next.1 := by
  refine bystanderKnows.imp fun busy => ?_
  have otherToken : delivery.claimToken ≠ bystander.claimToken := fun same =>
    different (meets.distinct _ _ _ _ isThread isBystander same).symm
  -- the row has one token, so a delivery that writes under its claim has no bystander
  have alone (ownBusy : pool.store.Busy delivery.claimToken) : False :=
    otherToken (some.inj (ownBusy.token.symm.trans busy.token))
  have inLease := meets.inLease delivery isThread
  have skips := fun isQuiet => meets.skips isQuiet delivery isThread
  obtain ⟨token, phase⟩ := delivery
  cases phase with
  | checking =>
    cases acted
    exact bystanderKnows
  | skipping =>
    cases acted
    rcases busy.status with ⟨isInProgress, _⟩ | isSuccess
    · have notQuiet : quiet = false :=
        Bool.eq_false_iff.mpr fun isQuiet => skips isQuiet rfl isInProgress
      exact bystanderKnows.of_busy notQuiet isInProgress (busy_of_skipped sameOrg busy)
    · rwa [finalize_of_not_selects (selects_of_success isSuccess)]
  | claiming =>
    cases acted
    rwa [finalize_of_not_updated (busy.not_claimed otherToken (inLease rfl))]
  | running | recording count | failing failure => exact (alone knows.1).elim
  | finished _ => cases acted

/-- The deliveries do not disturb what each of them knows. -/
theorem deliveriesFree :
    (deliverySystem orgId statsKey).InterferenceFree (Meets quiet) (fun row => row.orgId = orgId)
      (Delivery.Knows statsKey quiet) where
  start _ _ _ := trivial
  own _ pid _ delivery _ _ sound _ isThread acted :=
    (sound.threads pid delivery isThread).act sound.store acted
  others _ pid _ delivery _ _ sound meets isThread acted other bystander different isBystander :=
    Delivery.Knows.others sound.store meets isThread isBystander different
      (sound.threads pid delivery isThread) (sound.threads other bystander isBystander) acted

end Free

/-! ## Runs -/

/-- An audit row with no delivery under way. -/
def initialPool (row : AuditRow) : Pool AuditRow Delivery :=
  ⟨row, fun _ => none⟩

theorem Phase.eq_of_completed {phase : Phase} (isCompleted : phase.completed.isSome = true) :
    ∃ count, phase = .recording count ∨ phase = .finished (.completed count) := by
  cases phase with
  | recording count => exact ⟨count, .inl rfl⟩
  | finished ending =>
    cases ending with
    | completed count => exact ⟨count, .inr rfl⟩
    | skipped | alreadyDone | conflicted | failed _ => cases isCompleted
  | checking | skipping | claiming | running | failing _ => cases isCompleted

theorem Delivery.Knows.busy (knows : delivery.Knows statsKey quiet row)
    (isCompleted : delivery.phase.completed.isSome = true) : row.Busy delivery.claimToken := by
  obtain ⟨count, isPhase | isPhase⟩ := Phase.eq_of_completed isCompleted <;>
  · rw [Delivery.Knows, isPhase] at knows
    exact knows.1

section Runs

variable {events : List (ThreadEvent String Answer)} {target : Pool AuditRow Delivery}

theorem distinct_of_tokens
    (tokens : ((deliverySystem orgId statsKey).marks Delivery.claimToken events).Nodup) :
    GuardedRun (deliverySystem orgId statsKey).step
        (fun pool _ => pool.Distinct Delivery.claimToken) (initialPool row) events ∧
      ∀ target, run (deliverySystem orgId statsKey).step (initialPool row) events = some target →
        target.Distinct Delivery.claimToken :=
  ThreadSystem.distinct_of_run (fun _ _ _ _ acted => claimToken_act acted) tokens
    ⟨fun _ _ _ _ isThread => (nomatch isThread), fun _ _ isThread => nomatch isThread⟩

/-- What the deliveries know at the end of a run. -/
theorem sound_of_run (sameOrg : row.orgId = orgId)
    (meets : GuardedRun (deliverySystem orgId statsKey).step (Meets quiet) (initialPool row) events)
    (runEq : run (deliverySystem orgId statsKey).step (initialPool row) events = some target) :
    target.Sound (fun row => row.orgId = orgId) (Delivery.Knows statsKey quiet) :=
  invariant_of_guardedRun deliveriesFree.preserved (.idle sameOrg) meets runEq

/-- The operation runs to its end in one delivery at most.  When no skip is written on a row that
is claimed, the row has the result of that delivery once it has ended. -/
theorem row_records_run (sameOrg : row.orgId = orgId)
    (tokens : ((deliverySystem orgId statsKey).marks Delivery.claimToken events).Nodup)
    (inLease : GuardedRun (deliverySystem orgId statsKey).step InLease (initialPool row) events)
    (runEq : run (deliverySystem orgId statsKey).step (initialPool row) events = some target) :
    CompletesOnce target ∧
      (GuardedRun (deliverySystem orgId statsKey).step SkipsUnclaimed (initialPool row) events →
        RecordsRun statsKey target) := by
  obtain ⟨distinct, distinctEnd⟩ := distinct_of_tokens tokens
  constructor
  · have meets : GuardedRun (deliverySystem orgId statsKey).step (Meets false) (initialPool row)
        events :=
      (guardedRun_congr (fun _ _ => ⟨fun both => ⟨both.1, both.2, nofun⟩,
        fun meets => ⟨meets.distinct, meets.inLease⟩⟩) _ _).mp (distinct.and inLease)
    have sound := sound_of_run sameOrg meets runEq
    intro pid other delivery bystander isThread isBystander completed otherCompleted
    have busy := (sound.threads pid delivery isThread).busy completed
    have otherBusy := (sound.threads other bystander isBystander).busy otherCompleted
    exact distinctEnd target runEq pid other delivery bystander isThread isBystander
      (some.inj (busy.token.symm.trans otherBusy.token))
  · intro skips
    have meets : GuardedRun (deliverySystem orgId statsKey).step (Meets true) (initialPool row)
        events :=
      (guardedRun_congr (fun _ _ => ⟨fun all => ⟨all.1.1, all.1.2, fun _ => all.2⟩,
        fun meets => ⟨⟨meets.distinct, meets.inLease⟩, meets.skips rfl⟩⟩) _ _).mp
        ((distinct.and inLease).and skips)
    intro pid delivery count isThread isCompleted
    have knows := (sound_of_run sameOrg meets runEq).threads pid delivery isThread
    rw [Delivery.Knows, isCompleted] at knows
    exact ⟨knows.2.1, knows.2.2 rfl⟩

end Runs

/-- A delivery runs the operation and records it; a second one then skips. -/
def skipsAfter : List (ThreadEvent String Answer) :=
  [.start 0 "first", .start 1 "second", .advance 0 {}, .advance 0 {}, .advance 0 { op := .ok 3 },
    .advance 0 {}, .advance 1 { alreadyDone := true }, .advance 1 {}]

/-- The same, where the second one skips while the operation of the first is running. -/
def skipsDuring : List (ThreadEvent String Answer) :=
  [.start 0 "first", .start 1 "second", .advance 0 {}, .advance 0 {},
    .advance 1 { alreadyDone := true }, .advance 1 {}, .advance 0 { op := .ok 3 }, .advance 0 {}]

theorem row_records_run_skipsAfter :
    ∃ target, run (deliverySystem "org" "links_created").step (initialPool { orgId := "org" })
        skipsAfter = some target ∧ CompletesOnce target ∧ RecordsRun "links_created" target := by
  obtain ⟨target, runEq⟩ : ∃ target, run (deliverySystem "org" "links_created").step
      (initialPool { orgId := "org" }) skipsAfter = some target := ⟨_, rfl⟩
  have sameOrg : ({ orgId := "org" } : AuditRow).orgId = "org" := rfl
  have both := row_records_run sameOrg (by decide) (by decide +kernel) runEq
  exact ⟨target, runEq, both.1, both.2 (by decide +kernel)⟩

/-- A skip that is written while another delivery runs the operation stays on the row, and the
result of the run is lost. -/
theorem skip_hides_run :
    ∃ target, ((deliverySystem "org" "links_created").marks Delivery.claimToken skipsDuring).Nodup ∧
      GuardedRun (deliverySystem "org" "links_created").step InLease
        (initialPool { orgId := "org" }) skipsDuring ∧
      run (deliverySystem "org" "links_created").step (initialPool { orgId := "org" })
        skipsDuring = some target ∧
      (∃ delivery, target.threads 0 = some delivery ∧ delivery.phase = .finished (.completed 3)) ∧
      target.store.stats = some skippedStats ∧ ¬RecordsRun "links_created" target := by
  refine ⟨_, by decide, by decide +kernel, rfl, ⟨_, rfl, rfl⟩, rfl, fun records => ?_⟩
  have recorded : some skippedStats = some _ := (records 0 _ 3 rfl rfl).2
  simp [skippedStats, runStats] at recorded

end Caura.Lifecycle
