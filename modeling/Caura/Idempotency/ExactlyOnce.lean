import Caura.Idempotency.Protocol

/-!
# A key is handled once

As long as no storage call on a slot fails, no row of the slot expires and no
request for it is cancelled, at most one of its requests completes its handler,
and every replay is of the response that this request recorded.  Live claims alone
are not enough: a request that comes after the recorded response has expired runs
again.

`Move` is the protocol as the slot sees it: its row is absent, awaits the
response of one request, or holds it.  The request that inserted the row is the
only one with a claim until it completes or deletes the row, and a completed row
stays.
-/

namespace Caura.Idempotency

open Caura.Value Caura.Transition Function

/-! ## Moves of a slot -/

/-- The task claimed the slot or completed. -/
def Phase.Winner : Phase → Prop
  | .handler _ | .record .. | .release _ | .done (.completed ..) => True
  | _ => False

/-- The guard was made by a claim of the slot whose row it left. -/
structure HoldsClaim (slot : Slot) (row : Option InboxRow) (guard : IdempotencyGuard) :
    Prop where
  slot : guard.slot = slot
  claimed : guard.claimed = true
  awaits : ∃ current, row = some current ∧ current.awaits guard.requestHash = true

/-- What the row of the slot is, by the phase of a task for it. -/
def PhaseFits (slot : Slot) (row : Option InboxRow) : Phase → Prop
  | .handler (some guard) | .record guard _ _ _ .complete | .release guard =>
    HoldsClaim slot row guard
  | .done (.completed responseBody statusCode) =>
    ∃ current, row = some current ∧ current.isPending = false ∧
      current.responseBody = responseBody ∧ current.statusCode = statusCode
  | .done (.replayed guard) =>
    ∃ current, row = some current ∧ current.isPending = false ∧
      guard.cachedReplay = some (current.responseBody, current.statusCode)
  | phase => phase.Plain

/-- What a step without failure, expiry or cancellation does to the row of a slot
and to the phase of a task for it. -/
inductive Move (slot : Slot) (requestHash : String) :
    Option InboxRow → Phase → Option InboxRow → Phase → Prop where
  /-- A read or a decision that leads to neither a guard nor a replay. -/
  | read {row : Option InboxRow} {phase next : Phase} (wasPlain : phase.Plain)
      (isPlain : next.Plain) : Move slot requestHash row phase row next
  | replay {row : InboxRow} {phase : Phase} (wasPlain : phase.Plain)
      (completed : row.isPending = false) :
      Move slot requestHash (some row) phase (some row)
        (.done (.replayed (replayGuard slot requestHash row)))
  | claim (expiresAt : Int) :
      Move slot requestHash none .claim (some (claimRow requestHash expiresAt))
        (.handler (some (freshGuard slot requestHash true)))
  | finish {row : Option InboxRow} (guard : IdempotencyGuard) (responseBody : Json)
      (statusCode expiresAt : Int) :
      Move slot requestHash row (.handler (some guard)) row
        (.record guard responseBody statusCode expiresAt .complete)
  | fail {row : Option InboxRow} (guard : IdempotencyGuard) :
      Move slot requestHash row (.handler (some guard)) row (.release guard)
  | record {row : Option InboxRow} (guard : IdempotencyGuard) (responseBody : Json)
      (statusCode expiresAt : Int) :
      Move slot requestHash row
        (.record guard responseBody statusCode expiresAt .complete)
        (some (recordRow guard.requestHash responseBody statusCode expiresAt))
        (.done (.completed responseBody statusCode))
  | release {row : Option InboxRow} (guard : IdempotencyGuard) :
      Move slot requestHash row (.release guard) none (.done .failed)

variable {requestHash : String} {slot : Slot} {row : Option InboxRow} {next : Phase}

section Moves

variable {now : Int} {inbox after : Inbox} {phase : Phase} {action : Action}

/-- A decision on a row that was read is a move. -/
theorem move_of_decision {decision : Decision} (wasPlain : phase.Plain)
    (guarded : decision ≠ .unguarded)
    (replays : ∀ replayed, decision = .replay replayed → Replays requestHash row replayed) :
    Move slot requestHash row phase row (decision.phase slot requestHash) := by
  cases decision with
  | replay replayed =>
    obtain ⟨rfl, completed, _⟩ := replays replayed rfl
    exact .replay wasPlain completed
  | unguarded => exact absurd rfl guarded
  | raise | lookup | claim | poll => exact .read wasPlain trivial

/-- A step on a live slot in which nothing goes wrong is a move. -/
theorem move_of_effect (live : LiveSlot inbox now slot) (undisturbed : action.undisturbed = true)
    (fits : PhaseFits slot (inbox slot) phase)
    (effect : Effect requestHash slot now inbox phase action after next) :
    Move slot requestHash (inbox slot) phase (after slot) next := by
  cases effect with
  | decided decision wasPlain guarded replays =>
    rw [idempotencyGet_of_live live] at replays
    exact move_of_decision wasPlain guarded replays
  | degraded _ disturbed => exact absurd undisturbed (by simp [disturbed])
  | claimed expiresAt won =>
    obtain ⟨absent, rfl⟩ := idempotencyClaim_eq_some won
    rw [idempotencyGet_of_live live] at absent
    rw [absent, update_self]
    exact .claim expiresAt
  | refused => exact .read trivial trivial
  | finished guard => exact .finish ..
  | failed guard =>
    rw [if_pos fits.claimed]
    exact .fail guard
  | recorded guard responseBody statusCode expiresAt stage reply stepped =>
    cases stage with
    | complete =>
      obtain ⟨rfl, _, current, found, awaits⟩ := fits
      simp only [recordStep, idempotencyComplete_of_awaits found awaits] at stepped
      obtain ⟨rfl, rfl⟩ := stepped
      rw [update_self]
      exact .record ..
    | insert | readBack => exact absurd fits id
  | released guard =>
    obtain ⟨rfl, _, current, found, awaits⟩ := fits
    rw [idempotencyRelease_of_awaits found awaits, update_self]
    exact .release guard
  | claimLost | recordFailed | releaseLost | releaseFailed | landed | cancelled =>
    cases undisturbed

/-! ## The invariant of a slot -/

theorem phaseFits_of_plain (plain : phase.Plain) : PhaseFits slot row phase := by
  cases phase with
  | done outcome =>
    cases outcome with
    | raised | failed => trivial
    | _ => exact absurd plain id
  | idle | lookup | claim | refused | poll => trivial
  | _ => exact absurd plain id

theorem not_winner_of_plain (plain : phase.Plain) : ¬ phase.Winner := by
  cases phase with
  | done outcome =>
    cases outcome with
    | completed => exact absurd plain id
    | _ => exact id
  | handler | record | release => exact absurd plain id
  | _ => exact id

/-- Without a row there is neither a claim nor a response. -/
theorem plain_of_fits_none (fits : PhaseFits slot none phase) : phase.Plain := by
  cases phase with
  | handler guard =>
    cases guard with
    | none => exact fits
    | some guard =>
      obtain ⟨_, absent, _⟩ := fits.awaits
      cases absent
  | record guard _ _ _ stage =>
    cases stage with
    | complete =>
      obtain ⟨_, absent, _⟩ := fits.awaits
      cases absent
    | insert | readBack => exact fits
  | release guard =>
    obtain ⟨_, absent, _⟩ := fits.awaits
    cases absent
  | done outcome =>
    cases outcome with
    | completed | replayed =>
      obtain ⟨_, absent, _⟩ := fits
      cases absent
    | raised | failed => trivial
    | cancelled => exact fits
  | detached => exact fits
  | idle | lookup | claim | refused | poll => trivial

/-- While the row awaits a response, a task without the claim has nothing. -/
theorem plain_of_fits_pending {current : InboxRow} (pending : current.isPending = true)
    (fits : PhaseFits slot (some current) phase) (noWinner : ¬ phase.Winner) :
    phase.Plain := by
  cases phase with
  | handler | record | release => exact absurd trivial noWinner
  | done outcome =>
    cases outcome with
    | completed => exact absurd trivial noWinner
    | replayed =>
      obtain ⟨_, same, completed, _⟩ := fits
      cases same
      simp [pending] at completed
    | raised | failed => trivial
    | cancelled => exact fits
  | detached => exact fits
  | idle | lookup | claim | refused | poll => trivial

end Moves

/-- The row fits every task for the slot, at most one of them has won it, and a
completed row holds the response of a task that completed. -/
structure SlotInvariant (slot : Slot) (carries : Nat → Prop) (row : Option InboxRow)
    (phases : Nat → Phase) : Prop where
  fits : ∀ id, carries id → PhaseFits slot row (phases id)
  unique : ∀ id other, carries id → carries other → (phases id).Winner →
    (phases other).Winner → id = other
  recorded : ∀ current, row = some current → current.isPending = false →
    ∃ id, carries id ∧
      phases id = .done (.completed current.responseBody current.statusCode)

section Invariant

variable {carries : Nat → Prop} {after : Option InboxRow} {phases : Nat → Phase} {id : Nat}

/-- The invariant after a task's step, from what it says of that task and of the
others. -/
theorem SlotInvariant.update (invariant : SlotInvariant slot carries row phases)
    (nextFits : PhaseFits slot after next)
    (othersFit : ∀ other, carries other → other ≠ id → PhaseFits slot after (phases other))
    (onlyWinner : next.Winner → ∀ other, carries other → other ≠ id → ¬ (phases other).Winner)
    (recorded : ∀ current, after = some current → current.isPending = false →
      ∃ other, carries other ∧ update phases id next other =
        .done (.completed current.responseBody current.statusCode)) :
    SlotInvariant slot carries after (update phases id next) where
  fits other carriesOther := by
    by_cases isActor : other = id
    · rwa [isActor, update_self]
    · rw [update_of_ne isActor]
      exact othersFit other carriesOther isActor
  unique first second carriesFirst carriesSecond firstWon secondWon := by
    by_cases firstActs : first = id <;> by_cases secondActs : second = id
    · rw [firstActs, secondActs]
    · rw [firstActs, update_self] at firstWon
      rw [update_of_ne secondActs] at secondWon
      exact absurd secondWon (onlyWinner firstWon second carriesSecond secondActs)
    · rw [update_of_ne firstActs] at firstWon
      rw [secondActs, update_self] at secondWon
      exact absurd firstWon (onlyWinner secondWon first carriesFirst firstActs)
    · rw [update_of_ne firstActs] at firstWon
      rw [update_of_ne secondActs] at secondWon
      exact invariant.unique first second carriesFirst carriesSecond firstWon secondWon
  recorded := recorded

variable {guard : IdempotencyGuard}

section

variable (invariant : SlotInvariant slot carries row phases) (carriesId : carries id)
  (won : (phases id).Winner) (holds : HoldsClaim slot row guard)

include invariant carriesId won holds

/-- While a task holds the claim, the others have nothing. -/
theorem SlotInvariant.others_plain :
    ∀ other, carries other → other ≠ id → (phases other).Plain := by
  intro other carriesOther differs
  obtain ⟨current, rfl, awaits⟩ := holds.awaits
  have pending : current.isPending = true := by
    simp only [InboxRow.awaits, Bool.and_eq_true] at awaits
    exact awaits.2
  refine plain_of_fits_pending pending (invariant.fits other carriesOther) ?_
  intro otherWon
  exact differs (invariant.unique other id carriesOther carriesId otherWon won)

/-- The step of the task that holds the claim. -/
theorem SlotInvariant.advance (nextFits : PhaseFits slot after next)
    (recorded : ∀ current, after = some current → current.isPending = false →
      next = .done (.completed current.responseBody current.statusCode)) :
    SlotInvariant slot carries after (Function.update phases id next) := by
  have others := invariant.others_plain carriesId won holds
  refine invariant.update nextFits
    (fun other mem differs => phaseFits_of_plain (others other mem differs))
    (fun _ other mem differs => not_winner_of_plain (others other mem differs)) ?_
  intro current found completed
  refine ⟨id, carriesId, ?_⟩
  rw [update_self, recorded current found completed]

end

/-- A claimed row has no response yet. -/
theorem not_completed_of_holdsClaim {current : InboxRow} (holds : HoldsClaim slot row guard)
    (found : row = some current) :
    current.isPending ≠ false := by
  obtain ⟨claimed, claimedRow, awaits⟩ := holds.awaits
  cases found.symm.trans claimedRow
  simp only [InboxRow.awaits, Bool.and_eq_true] at awaits
  simp [awaits.2]

section

variable (invariant : SlotInvariant slot carries row phases)

include invariant

/-- The invariant is about the tasks for the slot. -/
theorem SlotInvariant.congr {others : Nat → Phase}
    (same : ∀ id, carries id → others id = phases id) :
    SlotInvariant slot carries row others where
  fits id mem := same id mem ▸ invariant.fits id mem
  unique first second firstMem secondMem firstWon secondWon :=
    invariant.unique first second firstMem secondMem (same first firstMem ▸ firstWon)
      (same second secondMem ▸ secondWon)
  recorded current found completed := by
    obtain ⟨id, mem, done⟩ := invariant.recorded current found completed
    exact ⟨id, mem, (same id mem).trans done⟩

/-- A step that leaves the row alone and ends in no winner keeps the invariant. -/
theorem SlotInvariant.keep (wasPlain : (phases id).Plain) (nextFits : PhaseFits slot row next)
    (noWinner : ¬ next.Winner) :
    SlotInvariant slot carries row (Function.update phases id next) := by
  refine invariant.update nextFits (fun other carriesOther _ =>
    invariant.fits other carriesOther) (fun won => absurd won noWinner) ?_
  intro current found completed
  obtain ⟨other, carriesOther, done⟩ := invariant.recorded current found completed
  refine ⟨other, carriesOther, ?_⟩
  have differs : other ≠ id := by
    rintro rfl
    rwa [done] at wasPlain
  rw [update_of_ne differs, done]

/-- A move keeps the invariant of its slot. -/
theorem SlotInvariant.move (carriesId : carries id)
    (moved : Move slot requestHash row (phases id) after next) :
    SlotInvariant slot carries after (Function.update phases id next) := by
  have fits := invariant.fits id carriesId
  generalize phaseEq : phases id = phase at moved fits
  cases moved with
  | read wasPlain isPlain =>
    exact invariant.keep (phaseEq ▸ wasPlain) (phaseFits_of_plain isPlain)
      (not_winner_of_plain isPlain)
  | replay wasPlain completed =>
    exact invariant.keep (phaseEq ▸ wasPlain) ⟨_, rfl, completed, rfl⟩ (fun won => won)
  | claim expiresAt =>
    have plain : ∀ other, carries other → (phases other).Plain := fun other mem =>
      plain_of_fits_none (invariant.fits other mem)
    refine invariant.update ⟨rfl, rfl, _, rfl, ?_⟩
      (fun other mem _ => phaseFits_of_plain (plain other mem))
      (fun _ other mem _ => not_winner_of_plain (plain other mem)) ?_
    · simp [InboxRow.awaits, claimRow, freshGuard]
    · intro current found completed
      cases found
      cases completed
  | finish guard | fail guard =>
    refine invariant.advance carriesId (phaseEq ▸ trivial) fits fits ?_
    intro current found completed
    exact absurd completed (not_completed_of_holdsClaim fits found)
  | record guard responseBody statusCode expiresAt =>
    refine invariant.advance carriesId (phaseEq ▸ trivial) fits ⟨_, rfl, rfl, rfl, rfl⟩ ?_
    intro current found _
    cases found
    rfl
  | release guard =>
    refine invariant.advance carriesId (phaseEq ▸ trivial) fits trivial ?_
    intro current found
    cases found

end

end Invariant

/-! ## Runs -/

/-- A step in which nothing goes wrong on a slot: its row, claimed or completed, is
not expired, and a request for it is not disturbed.  Requests for other slots may
be. -/
def System.Calm (system : System) (slot : Slot) (world : World) : Event → Prop
  | .request id action =>
    LiveSlot world.inbox world.now slot ∧ (system.Carries slot id → action.undisturbed = true)
  | .tick _ | .purge _ => LiveSlot world.inbox world.now slot

instance (system : System) (slot : Slot) (world : World) (event : Event) :
    Decidable (system.Calm slot world event) := by
  cases event <;> dsimp only [System.Calm] <;> infer_instance

/-- A step in which a claim of the slot has not expired and a request for it is not
disturbed.  A recorded response may have expired. -/
def System.ClaimsHold (system : System) (slot : Slot) (world : World) (event : Event) : Prop :=
  (∀ row ∈ world.inbox slot, row.isPending = true → world.now < row.expiresAt) ∧
    match event with
    | .request id action => system.Carries slot id → action.undisturbed = true
    | .tick _ | .purge _ => True

instance (system : System) (slot : Slot) (world : World) (event : Event) :
    Decidable (system.ClaimsHold slot world event) := by
  cases event <;> dsimp only [System.ClaimsHold] <;> infer_instance

/-- The invariant of a slot in a world whose guards belong to their requests. -/
structure CalmInvariant (system : System) (slot : Slot) (world : World) : Prop where
  owned : system.GuardsOwned world
  calm : SlotInvariant slot (system.Carries slot) (world.inbox slot) world.phases

section Runs

variable {system : System} {world target : World} {event : Event}

theorem calmInvariant_start (now : Int) : CalmInvariant system slot (World.start now) where
  owned := guardsOwned_start now
  calm :=
    { fits := fun _ _ => trivial
      unique := fun _ _ _ _ won => absurd won id
      recorded := fun _ absent => by cases absent }

theorem CalmInvariant.step (invariant : CalmInvariant system slot world)
    (calm : system.Calm slot world event)
    (stepEq : system.step world event = some target) :
    CalmInvariant system slot target where
  owned := invariant.owned.step stepEq
  calm := by
    cases event with
    | request id action =>
      obtain ⟨⟨after, next⟩, acted, rfl⟩ := Option.map_eq_some_iff.mp stepEq
      dsimp only
      by_cases carries : system.Carries slot id
      · refine invariant.calm.move carries
          (move_of_effect calm.1 (calm.2 carries) (invariant.calm.fits id carries)
            (effect_of_act carries acted))
      · rw [act_other invariant.owned carries acted]
        refine invariant.calm.congr fun other carriesOther =>
          update_of_ne ?_ _ _
        rintro rfl
        exact carries carriesOther
    | tick elapsed =>
      cases stepEq
      exact invariant.calm
    | purge purged =>
      cases stepEq
      dsimp only
      rw [purgeExpired_of_live calm]
      exact invariant.calm

/-- The handler of the request returned a response. -/
def Phase.Succeeded : Phase → Prop
  | .record .. | .done (.completed ..) => True
  | _ => False

theorem Phase.Succeeded.winner {phase : Phase} (succeeded : phase.Succeeded) : phase.Winner := by
  cases phase with
  | record => trivial
  | done outcome =>
    cases outcome with
    | completed => trivial
    | _ => exact absurd succeeded id
  | _ => exact absurd succeeded id

/-- A key is handled exactly once: in every interleaving in which nothing goes wrong
on a slot, at most one of the requests for it completes its handler, and the body
and status of every replay are those that this request recorded. -/
theorem handled_exactly_once (system : System) (slot : Slot) (now : Int)
    (events : List Event) (world : World)
    (calm : GuardedRun system.step (system.Calm slot) (World.start now) events)
    (runEq : run system.step (World.start now) events = some world) :
    (∀ first second, system.Carries slot first → system.Carries slot second →
      (world.phases first).Succeeded → (world.phases second).Succeeded → first = second) ∧
    ∀ id guard responseBody statusCode, system.Carries slot id →
      world.phases id = .done (.replayed guard) →
      guard.cachedReplay = some (responseBody, statusCode) →
        ∃ recorder, system.Carries slot recorder ∧
          world.phases recorder = .done (.completed responseBody statusCode) := by
  have invariant : CalmInvariant system slot world :=
    invariant_of_guardedRun (fun _ _ _ kept calm stepEq => kept.step calm stepEq)
      (calmInvariant_start now) calm runEq
  constructor
  · intro first second carriesFirst carriesSecond firstDone secondDone
    exact invariant.calm.unique first second carriesFirst carriesSecond
      firstDone.winner secondDone.winner
  · intro id guard responseBody statusCode carries replayed cached
    have fits := invariant.calm.fits id carries
    rw [replayed] at fits
    obtain ⟨current, found, completed, replay⟩ := fits
    cases cached.symm.trans replay
    exact invariant.calm.recorded current found completed

/-- A request and its retries. -/
def retries : System where
  requests _ :=
    { tenantId := "acme"
      idempotencyKey := some "order-7"
      requestHash := "c0ffee"
      agentId := none
      source := .header }
  isSpace char := char == ' '

/-- The slot of the retries. -/
def retrySlot : Slot :=
  ⟨"acme", storedKey .header none "order-7"⟩

/-- The response of the request that runs. -/
def orderBody : Json :=
  .obj [("order", .int 7)]

/-- Two requests miss the row and race for the claim; the loser and a third request
poll until the response of the winner is there. -/
def racingRetries : List Event :=
  [.request 0 .start, .request 0 (.lookup .delivered),
    .request 1 .start, .request 1 (.lookup .delivered),
    .request 0 (.claim 60 .delivered), .request 1 (.claim 60 .delivered),
    .request 1 (.readRefusal .delivered), .request 2 .start,
    .request 2 (.lookup .delivered), .tick 5,
    .request 0 (.finish orderBody 201 86400), .request 1 (.poll .delivered),
    .request 0 (.record .delivered), .request 1 (.poll .delivered),
    .request 2 (.poll .delivered)]

/-- The world after the race. -/
def racedWorld : World :=
  (run retries.step (World.start 0) racingRetries).getD (World.start 0)

/-- The request that lost the race replays the response of the one that won. -/
theorem handled_exactly_once_racing : ∃ recorder, retries.Carries retrySlot recorder ∧
      racedWorld.phases recorder = .done (.completed orderBody 201) := by
  refine (handled_exactly_once retries retrySlot 0 racingRetries racedWorld
    (by decide) rfl).2 1 (replayGuard retrySlot "c0ffee" (recordRow "c0ffee" orderBody 201
      86400)) orderBody 201 (by decide) rfl rfl

/-- A request looks its row up and claims it. -/
def claims (id : Nat) (expiresAt : Int) : List Event :=
  [.request id .start, .request id (.lookup .delivered), .request id (.claim expiresAt .delivered)]

/-- A retry that comes when the response recorded for the first request has
expired. -/
def lateRetry : List Event :=
  claims 0 90 ++
    [.tick 5, .request 0 (.finish orderBody 201 86405), .request 0 (.record .delivered),
      .tick 90000] ++
    claims 1 90095 ++ [.request 1 (.finish orderBody 201 176405), .request 1 (.record .delivered)]

/-- An expired response counts as absent, so that the late retry runs its handler
although every claim was completed in time. -/
theorem expired_response_handled_again :
    GuardedRun retries.step (retries.ClaimsHold retrySlot) (World.start 0) lateRetry ∧
    ∃ world, run retries.step (World.start 0) lateRetry = some world ∧
      ¬ ∀ first second, retries.Carries retrySlot first →
        retries.Carries retrySlot second → (world.phases first).Succeeded →
          (world.phases second).Succeeded → first = second := by
  refine ⟨by decide, _, rfl, ?_⟩
  intro atMostOne
  exact absurd (atMostOne 0 1 (by decide) (by decide) trivial trivial) (by decide)

end Runs

end Caura.Idempotency
