import Caura.Idempotency.ExactlyOnce
import Caura.Idempotency.Rows

/-!
# A replay is of the request's own response

Storage calls may fail, rows may expire and be taken over, and tasks may be
cancelled at any point.  Still every completed row holds what `record` was given
on a guard with the hash of that row, and a guard replays only a completed row of
its own hash.  So a replay never shows the response of a request with another hash,
nor the placeholder of a claim.
-/

namespace Caura.Idempotency

open Caura.Value Caura.Transition Option

/-! ## Recorded responses -/

/-- The completed rows of the inbox hold responses that `record` was given for their
slot and hash. -/
def RowsRecorded (calls : List RecordCall) (inbox : Inbox) : Prop :=
  ∀ slot row, inbox slot = some row → row.isPending = false →
    ⟨slot, row.requestHash, row.responseBody, row.statusCode⟩ ∈ calls

/-- The guard of a phase. -/
def Phase.guard : Phase → Option IdempotencyGuard
  | .handler guard => guard
  | .record guard _ _ _ _ | .release guard | .done (.replayed guard) => some guard
  | .detached phase => phase.guard
  | _ => none

/-- A guard caches nothing, or the completed row of a recorded response. -/
def IdempotencyGuard.Backed (calls : List RecordCall) (guard : IdempotencyGuard) : Prop :=
  ∀ row ∈ guard.cached, row.isPending = false ∧
    ⟨guard.slot, guard.requestHash, row.responseBody, row.statusCode⟩ ∈ calls

/-- The response that a task is recording was given to `record`. -/
def Phase.RecordsGiven (calls : List RecordCall) : Phase → Prop
  | .record guard responseBody statusCode _ _ =>
    ⟨guard.slot, guard.requestHash, responseBody, statusCode⟩ ∈ calls
  | .detached phase => phase.RecordsGiven calls
  | _ => True

/-- The guard of the phase and the response it records come from `record`. -/
structure Phase.Backed (calls : List RecordCall) (phase : Phase) : Prop where
  replay : ∀ guard ∈ phase.guard, guard.Backed calls
  given : phase.RecordsGiven calls

variable {calls : List RecordCall} {phase next : Phase} {action : Action}

section Phases

variable {later : List RecordCall} {guard : IdempotencyGuard}

theorem IdempotencyGuard.Backed.mono (backed : guard.Backed calls)
    (grows : calls ⊆ later) : guard.Backed later := by
  intro row cached
  obtain ⟨completed, given⟩ := backed row cached
  exact ⟨completed, grows given⟩

theorem Phase.RecordsGiven.mono (given : phase.RecordsGiven calls)
    (grows : calls ⊆ later) : phase.RecordsGiven later := by
  induction phase with
  | record => exact grows given
  | detached phase ih => exact ih given
  | _ => trivial

theorem Phase.Backed.mono (backed : phase.Backed calls) (grows : calls ⊆ later) :
    phase.Backed later where
  replay guard guardMem := (backed.replay guard guardMem).mono grows
  given := backed.given.mono grows

theorem backed_freshGuard (slot : Slot) (requestHash : String) (claimed : Bool) :
    (freshGuard slot requestHash claimed).Backed calls := by
  intro row cached
  cases cached

theorem backed_handler (backed : guard.Backed calls) :
    (Phase.handler (some guard)).Backed calls where
  replay other otherMem := by
    cases otherMem
    exact backed
  given := trivial

/-- A phase without a guard has nothing to be backed. -/
theorem backed_of_guard_eq_none (noGuard : phase.guard = none)
    (given : phase.RecordsGiven calls) : phase.Backed calls where
  replay guard guardMem := by
    rw [noGuard] at guardMem
    cases guardMem
  given := given

theorem backed_cancelled (backed : phase.Backed calls) : phase.cancelled.Backed calls := by
  cases phase with
  | record => exact ⟨backed.replay, backed.given⟩
  | release => exact ⟨backed.replay, trivial⟩
  | detached => exact backed
  | _ => exact backed_of_guard_eq_none rfl trivial

/-- What a task in flight records was given to `record`. -/
theorem Phase.Backed.given_of_makes (backed : phase.Backed calls) {responseBody : Json}
    {statusCode expiresAt : Int} {stage : RecordStage}
    (makes : phase.Makes (.record guard responseBody statusCode expiresAt stage)) :
    ⟨guard.slot, guard.requestHash, responseBody, statusCode⟩ ∈ calls := by
  rcases makes with rfl | rfl
  · exact backed.given
  · exact backed.given

end Phases

/-! ## Steps -/

section Steps

variable {requestHash : String} {slot : Slot} {now : Int} {inbox after : Inbox}

/-- A step keeps the rows recorded. -/
theorem RowsRecorded.effect (recorded : RowsRecorded calls inbox) (backed : phase.Backed calls)
    (effect : Effect requestHash slot now inbox phase action after next) :
    RowsRecorded calls after := by
  intro other row found completed
  have rowEffect := effect.rowEffect other
  generalize after other = written at rowEffect found
  cases rowEffect with
  | kept => exact recorded other row found completed
  | claimed =>
    cases found
    cases completed
  | recorded makes isSlot =>
    cases found
    rw [isSlot]
    exact backed.given_of_makes makes
  | released => cases found

/-- A row that a decision replays is a recorded response to the same request. -/
theorem RowsRecorded.backed_decision (recorded : RowsRecorded calls inbox) {decision : Decision}
    (replays : ∀ replayed, decision = .replay replayed →
      Replays requestHash (idempotencyGet inbox now slot) replayed) :
    (decision.phase slot requestHash).Backed calls := by
  cases decision with
  | replay replayed =>
    obtain ⟨read, completed, sameRequest⟩ := replays replayed rfl
    have found := (idempotencyGet_eq_some_iff.mp read).1
    have given := recorded slot replayed found completed
    rw [sameRequest] at given
    refine ⟨?_, trivial⟩
    rintro guard guardMem
    cases guardMem
    rintro row cached
    cases cached
    exact ⟨completed, given⟩
  | _ => exact backed_of_guard_eq_none rfl trivial

/-- A statement of a record goes on with the same response or ends. -/
theorem backed_recordStep {guard : IdempotencyGuard} {responseBody : Json}
    {statusCode expiresAt : Int} {stage : RecordStage}
    (backed : guard.Backed calls)
    (given : ⟨guard.slot, guard.requestHash, responseBody, statusCode⟩ ∈ calls)
    (stepped : recordStep inbox guard responseBody statusCode expiresAt stage =
      (after, next)) : next.Backed calls := by
  rcases recordStep_cases stepped with ⟨rfl, _⟩ | ⟨_, stage, rfl⟩
  · exact backed_of_guard_eq_none rfl trivial
  · refine ⟨?_, given⟩
    intro other otherMem
    cases otherMem
    exact backed

/-- The calls after a step, with the one that the end of a handler makes. -/
theorem Phase.Backed.effect (backed : phase.Backed calls) (recorded : RowsRecorded calls inbox)
    (effect : Effect requestHash slot now inbox phase action after next) :
    next.Backed (calls ++ recordCall phase action) := by
  have grows : calls ⊆ calls ++ recordCall phase action := List.subset_append_left _ _
  cases effect with
  | decided decision _ _ replays => exact (recorded.backed_decision replays).mono grows
  | degraded | claimed | claimLost => exact backed_handler (backed_freshGuard _ _ _)
  | finished guard responseBody statusCode expiresAt =>
    refine ⟨?_, List.mem_append_right _ (.head _)⟩
    intro other otherMem
    cases otherMem
    exact (backed.replay guard rfl).mono grows
  | failed guard =>
    split
    · refine ⟨?_, trivial⟩
      intro other otherMem
      cases otherMem
      exact (backed.replay guard rfl).mono grows
    · exact backed_of_guard_eq_none rfl trivial
  | recorded guard _ _ _ _ _ stepped =>
    exact (backed_recordStep (backed.replay guard rfl) backed.given stepped).mono grows
  | releaseLost guard => exact backed.mono grows
  | cancelled => exact (backed_cancelled backed).mono grows
  | landed _ landed =>
    rcases landStep_cases landed with ⟨_, rfl, _⟩ |
      ⟨guard, _, _, _, _, middle, rfl, stepped, rfl | rfl⟩ | ⟨_, _, rfl, _⟩
    · exact backed_of_guard_eq_none rfl trivial
    · have middleBacked := backed_recordStep (backed.replay guard rfl) backed.given stepped
      exact Phase.Backed.mono ⟨middleBacked.replay, middleBacked.given⟩ grows
    · exact backed_of_guard_eq_none rfl trivial
    · exact backed_of_guard_eq_none rfl trivial
  | refused | recordFailed | released | releaseFailed => exact backed_of_guard_eq_none rfl trivial

end Steps

/-! ## Runs -/

/-- Rows and guards come from `record`, and guards belong to their requests. -/
structure ReplayInvariant (system : System) (world : World) : Prop where
  owned : system.GuardsOwned world
  rows : RowsRecorded world.recordCalls world.inbox
  phases : ∀ id slot, system.Carries slot id →
    (world.phases id).Backed world.recordCalls

section Runs

variable {system : System} {world target : World} {event : Event}

theorem replayInvariant_start (now : Int) : ReplayInvariant system (World.start now) where
  owned := guardsOwned_start now
  rows := by
    intro slot row found
    cases found
  phases _ _ _ := backed_of_guard_eq_none rfl trivial

/-- A request without a key does not touch the inbox. -/
theorem act_inbox_of_no_slot {id : Nat} {action : Action} {after : Inbox} {next : Phase}
    (noSlot : (system.requests id).slot = none)
    (acted : system.act world id action = some (after, next)) : after = world.inbox := by
  unfold System.act at acted
  rw [noSlot] at acted
  obtain ⟨phase, _, resultEq⟩ := map_eq_some_iff.mp acted
  cases resultEq
  rfl

theorem RowsRecorded.mono {calls later : List RecordCall} {inbox : Inbox}
    (recorded : RowsRecorded calls inbox) (grows : calls ⊆ later) :
    RowsRecorded later inbox :=
  fun slot row found completed => grows (recorded slot row found completed)

theorem ReplayInvariant.step (invariant : ReplayInvariant system world)
    (stepEq : system.step world event = some target) :
    ReplayInvariant system target where
  owned := invariant.owned.step stepEq
  rows := by
    cases event with
    | request id action =>
      obtain ⟨⟨after, next⟩, acted, rfl⟩ := map_eq_some_iff.mp stepEq
      have grows := List.subset_append_left world.recordCalls (recordCall (world.phases id) action)
      cases own : (system.requests id).slot with
      | none =>
        have same := act_inbox_of_no_slot own acted
        rw [same]
        exact invariant.rows.mono grows
      | some slot =>
        have rows := invariant.rows.effect (invariant.phases id slot own) (effect_of_act own acted)
        exact rows.mono grows
    | tick elapsed =>
      cases stepEq
      exact invariant.rows
    | purge purged =>
      cases stepEq
      intro slot row found completed
      exact invariant.rows slot row (purgeExpired_eq_some found) completed
  phases := by
    cases event with
    | request id action =>
      obtain ⟨⟨after, next⟩, acted, rfl⟩ := map_eq_some_iff.mp stepEq
      intro other slot carries
      dsimp only
      by_cases isActor : other = id
      · subst isActor
        rw [Function.update_self]
        exact (invariant.phases other slot carries).effect invariant.rows
          (effect_of_act carries acted)
      · rw [Function.update_of_ne isActor]
        exact (invariant.phases other slot carries).mono (List.subset_append_left _ _)
    | tick elapsed | purge purged =>
      cases stepEq
      exact invariant.phases

/-- The guard of a phase belongs to the request. -/
theorem Phase.Owned.guard {phase : Phase} {slot : Slot} {requestHash : String}
    (owned : phase.Owned slot requestHash) {guard : IdempotencyGuard}
    (holds : phase.guard = some guard) :
    guard.slot = slot ∧ guard.requestHash = requestHash := by
  induction phase with
  | handler held =>
    cases holds
    exact owned
  | record | release => cases holds; exact owned
  | detached phase ih => exact ih owned holds
  | done outcome =>
    cases outcome with
    | replayed => cases holds; exact owned
    | _ => cases holds
  | _ => cases holds

/-- No request replays another's response: whatever fails, expires or is cancelled,
the body and status that the guard of a request replays are those of a completed row,
and were given to `record` on a guard for the same slot with the same request
hash. -/
theorem replays_own_response (system : System) (now : Int) (events : List Event)
    (world : World) (runEq : run system.step (World.start now) events = some world)
    (slot : Slot) (id : Nat) (carries : system.Carries slot id)
    (guard : IdempotencyGuard) (holds : (world.phases id).guard = some guard)
    (responseBody : Json) (statusCode : Int)
    (replays : guard.cachedReplay = some (responseBody, statusCode)) :
    guard.requestHash = (system.requests id).requestHash ∧
      (∀ row ∈ guard.cached, row.isPending = false) ∧
      ∃ call ∈ world.recordCalls, call.slot = slot ∧
        call.requestHash = guard.requestHash ∧ call.responseBody = responseBody ∧
        call.statusCode = statusCode := by
  have invariant : ReplayInvariant system world :=
    invariant_of_run (fun _ _ _ kept stepEq => kept.step stepEq) (replayInvariant_start now) runEq
  have backed := (invariant.phases id slot carries).replay guard holds
  obtain ⟨slotEq, hashEq⟩ := (invariant.owned id slot carries).guard holds
  refine ⟨hashEq, fun row cached => (backed row cached).1, ?_⟩
  obtain ⟨row, cached, replayed⟩ := map_eq_some_iff.mp replays
  cases replayed
  exact ⟨_, (backed row cached).2, slotEq, rfl, rfl, rfl⟩

/-- The request that lost a race replays what the winner gave to `record`. -/
theorem replays_own_response_raced : ∃ call ∈ racedWorld.recordCalls, call.slot = retrySlot ∧
      call.requestHash = "c0ffee" ∧ call.responseBody = orderBody ∧
      call.statusCode = 201 :=
  (replays_own_response retries 0 racingRetries racedWorld rfl retrySlot 1 (by decide)
    (replayGuard retrySlot "c0ffee" (recordRow "c0ffee" orderBody 201 86400)) rfl
    orderBody 201 rfl).2.2

end Runs

end Caura.Idempotency
