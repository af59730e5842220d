import Caura.Idempotency.ExactlyOnce
import Caura.Idempotency.Rows

/-!
# Whose claim a release deletes

A release deletes the pending row with the hash of its request, whoever claimed
it.  To say whose claim that is, the system is run together with the request that
last claimed each slot; the row itself does not tell.

The theorem is about every run in which no request takes a slot while an earlier
claimant with the same hash may still release it.  The counterexample is a retry
with the same bytes that takes over an expired claim whose request is still at
work.
-/

namespace Caura.Idempotency

open Caura.Transition Function

/-! ## The claimants of slots -/

/-- A world and the request that last claimed each slot. -/
structure Traced where
  world : World
  claimant : Slot → Option Nat

/-- Nothing has happened. -/
def Traced.start (now : Int) : Traced where
  world := World.start now
  claimant _ := none

/-- The slot that a step of a request claims. -/
def System.claimedSlot (system : System) (world : World) (id : Nat) (action : Action) :
    Option Slot :=
  (system.requests id).slot.filter fun slot =>
    (world.phases id).sendsClaim action &&
      (idempotencyGet world.inbox world.now slot).isNone

/-- The claimants after an event. -/
def System.claimantAfter (system : System) (traced : Traced) : Event → Slot → Option Nat
  | .request id action =>
    match system.claimedSlot traced.world id action with
    | some slot => update traced.claimant slot (some id)
    | none => traced.claimant
  | .tick _ | .purge _ => traced.claimant

/-- The system, run together with the claimants of slots. -/
def System.tracedStep (system : System) : Step Traced Event
  | traced, event =>
    (system.step traced.world event).map fun next =>
      { world := next, claimant := system.claimantAfter traced event }

/-- Tracing claimants restricts nothing. -/
theorem run_tracedStep (system : System) (traced : Traced) (events : List Event) :
    (run system.tracedStep traced events).map Traced.world =
      run system.step traced.world events := by
  induction events generalizing traced with
  | nil => rfl
  | cons event events ih =>
    rw [run_cons, run_cons, System.tracedStep]
    cases system.step traced.world event with
    | none => rfl
    | some next => exact ih _

/-! ## Phases -/

/-- The task holds a claim that it may still release. -/
def Phase.CanRelease : Phase → Prop
  | .handler (some guard) => guard.claimed = true
  | .release _ | .detached (.release _) => True
  | _ => False

/-- The request is neither over nor cancelled. -/
def Phase.Running : Phase → Prop
  | .detached _ | .done _ => False
  | _ => True

section Effects

variable {isSpace : Char → Bool} {request : Request} {requestHash : String}
  {slot : Slot} {now : Int} {inbox after : Inbox} {phase next : Phase}
  {action : Action}

/-- A request that is over or cancelled does not run again. -/
theorem not_running_of_guardedStep (stopped : ¬ phase.Running)
    (stepEq : guardedStep isSpace request slot now inbox phase action =
      some (after, next)) : ¬ next.Running := by
  cases phase with
  | done => cases stepEq
  | detached phase =>
    cases action with
    | land expiresAt =>
      rcases landStep_cases stepEq with ⟨_, rfl, _⟩ |
        ⟨_, _, _, _, _, _, _, _, rfl | rfl⟩ | ⟨_, _, rfl, _⟩ <;>
      exact id
    | cancel =>
      cases stepEq
      exact id
    | _ => cases stepEq
  | _ => exact absurd trivial stopped

theorem not_running_of_unguardedStep (stopped : ¬ phase.Running)
    (stepEq : unguardedStep phase action = some next) : ¬ next.Running := by
  cases phase with
  | done => cases stepEq
  | detached phase =>
    cases action with
    | cancel =>
      cases stepEq
      exact id
    | _ => cases stepEq
  | _ => exact absurd trivial stopped

/-- A claim that is sent for a free slot is written. -/
theorem guardedStep_claim (sends : phase.sendsClaim action = true)
    (free : idempotencyGet inbox now slot = none)
    (stepEq : guardedStep isSpace request slot now inbox phase action = some (after, next)) :
    ∃ expiresAt, after slot = some (claimRow request.requestHash expiresAt) := by
  have won : ∀ expiresAt, idempotencyClaim inbox now slot request.requestHash expiresAt =
      some (update inbox slot (some (claimRow request.requestHash expiresAt))) := by
    intro expiresAt
    simp [idempotencyClaim, free]
  revert sends stepEq
  fun_cases Phase.sendsClaim phase action <;> intro sends stepEq
  case case1 expiresAt =>
    simp only [guardedStep, won, Option.some.injEq, Prod.mk.injEq] at stepEq
    exact ⟨expiresAt, by rw [← stepEq.1, update_self]⟩
  case case2 expiresAt =>
    simp only [guardedStep, won, Option.getD_some, Option.some.injEq, Prod.mk.injEq] at stepEq
    exact ⟨expiresAt, by rw [← stepEq.1, update_self]⟩
  case case3 expiresAt =>
    simp only [guardedStep, landStep, won, Option.getD_some, Option.some.injEq,
      Prod.mk.injEq] at stepEq
    exact ⟨expiresAt, by rw [← stepEq.1, update_self]⟩
  case case4 => cases sends

/-- Only a claim that is written gives a task something to release. -/
theorem Effect.canRelease (effect : Effect requestHash slot now inbox phase action after next)
    (canRelease : next.CanRelease) :
    phase.CanRelease ∨ phase.sendsClaim action = true ∧ idempotencyGet inbox now slot = none := by
  cases effect with
  | decided decision _ guarded =>
    cases decision with
    | unguarded => exact absurd rfl guarded
    | _ => exact absurd canRelease id
  | degraded | claimLost => cases canRelease
  | claimed expiresAt won => exact .inr ⟨rfl, (idempotencyClaim_eq_some won).1⟩
  | failed guard =>
    left
    split at canRelease
    · assumption
    · exact absurd canRelease id
  | recorded _ _ _ _ _ _ stepped =>
    rcases recordStep_cases stepped with ⟨rfl, _⟩ | ⟨_, _, rfl⟩ <;> exact absurd canRelease id
  | releaseLost => exact .inl trivial
  | landed _ landed =>
    rcases landStep_cases landed with ⟨_, rfl, _⟩ |
      ⟨_, _, _, _, _, _, _, stepped, rfl | rfl⟩ | ⟨_, _, rfl, _⟩
    · exact absurd canRelease id
    · rcases recordStep_cases stepped with ⟨rfl, _⟩ | ⟨_, _, rfl⟩ <;> exact absurd canRelease id
    · exact absurd canRelease id
    · exact absurd canRelease id
  | cancelled phase =>
    left
    cases phase with
    | release => trivial
    | detached => exact canRelease
    | _ => exact absurd canRelease id
  | refused | finished | recordFailed | released | releaseFailed => exact absurd canRelease id

/-- A task whose release is under way or comes next can release. -/
theorem canRelease_of_makes {guard : IdempotencyGuard}
    (makes : phase.Makes (.release guard)) : phase.CanRelease := by
  rcases makes with rfl | rfl
  · trivial
  · trivial

end Effects

/-! ## Steps of the system -/

/-- When a running request takes a slot, no other request that claimed it before
with the same hash may still release it. -/
def System.ClaimsAlone (system : System) (traced : Traced) : Event → Prop
  | .request id action =>
    ∀ slot, system.claimedSlot traced.world id action = some slot →
      (traced.world.phases id).Running →
      ∀ other, other ≠ id → system.Carries slot other →
        (system.requests other).requestHash = (system.requests id).requestHash →
        ¬ (traced.world.phases other).CanRelease
  | .tick _ | .purge _ => True

/-- The slot was last claimed by the request, or by one that is over or
cancelled. -/
def Traced.OwnOrStopped (traced : Traced) (slot : Slot) (id : Nat) : Prop :=
  traced.claimant slot = some id ∨
    ∃ other, traced.claimant slot = some other ∧
      ¬ (traced.world.phases other).Running

/-- A request that may still release finds its own claim or that of a request that
is over or cancelled. -/
structure ReleaseInvariant (system : System) (traced : Traced) : Prop where
  owned : system.GuardsOwned traced.world
  claims : ∀ slot id row, system.Carries slot id →
    (traced.world.phases id).CanRelease → traced.world.inbox slot = some row →
    row.awaits (system.requests id).requestHash = true →
    traced.OwnOrStopped slot id

section Steps

variable {system : System} {world : World} {traced next : Traced} {slot : Slot}
  {id other : Nat} {action : Action} {event : Event} {after : Inbox} {phase : Phase}

theorem claimedSlot_eq_some_iff : system.claimedSlot world id action = some slot ↔
      system.Carries slot id ∧ (world.phases id).sendsClaim action = true ∧
        idempotencyGet world.inbox world.now slot = none := by
  simp [System.claimedSlot, System.Carries]

theorem claimantAfter_of_claimed (claimed : system.claimedSlot traced.world id action = some slot) :
    system.claimantAfter traced (.request id action) slot = some id := by
  simp [System.claimantAfter, claimed]

theorem claimantAfter_of_not_claimed
    (notClaimed : system.claimedSlot traced.world id action ≠ some slot) :
    system.claimantAfter traced (.request id action) slot = traced.claimant slot := by
  cases claimed : system.claimedSlot traced.world id action with
  | none => simp [System.claimantAfter, claimed]
  | some claimedSlot =>
    have differs : slot ≠ claimedSlot := by
      rintro rfl
      exact notClaimed claimed
    simp [System.claimantAfter, claimed, update_of_ne differs]

theorem not_running_of_act (stopped : ¬ (world.phases id).Running)
    (acted : system.act world id action = some (after, phase)) : ¬ phase.Running := by
  unfold System.act at acted
  split at acted
  · obtain ⟨result, stepEq, resultEq⟩ := Option.map_eq_some_iff.mp acted
    cases resultEq
    exact not_running_of_unguardedStep stopped stepEq
  · exact not_running_of_guardedStep stopped acted

/-- A request that takes a slot writes its claim there. -/
theorem inbox_of_claimed (claimed : system.claimedSlot world id action = some slot)
    (acted : system.act world id action = some (after, phase)) :
    ∃ expiresAt, after slot = some (claimRow (system.requests id).requestHash expiresAt) := by
  obtain ⟨carries, sends, free⟩ := claimedSlot_eq_some_iff.mp claimed
  unfold System.act at acted
  rw [carries] at acted
  exact guardedStep_claim sends free acted

/-- A claimant that stopped is stopped after the step of any request. -/
theorem Traced.OwnOrStopped.step (kept : traced.OwnOrStopped slot other)
    (notClaimed : system.claimedSlot traced.world id action ≠ some slot)
    (acted : system.act traced.world id action = some (after, phase))
    (world : World) (phasesEq : world.phases = update traced.world.phases id phase) :
    Traced.OwnOrStopped ⟨world, system.claimantAfter traced (.request id action)⟩ slot other := by
  unfold Traced.OwnOrStopped
  dsimp only
  rw [claimantAfter_of_not_claimed notClaimed, phasesEq]
  rcases kept with own | ⟨stopped, isClaimant, notRunning⟩
  · exact .inl own
  · refine .inr ⟨stopped, isClaimant, ?_⟩
    by_cases isActor : stopped = id
    · subst isActor
      rw [update_self]
      exact not_running_of_act notRunning acted
    · rwa [update_of_ne isActor]

theorem releaseInvariant_start (now : Int) : ReleaseInvariant system (Traced.start now) where
  owned := guardsOwned_start now
  claims := by
    intro slot id row _ canRelease
    exact absurd canRelease fun impossible => impossible

/-- The step of a request that takes the slot. -/
theorem ReleaseInvariant.claims_of_claimed (alone : system.ClaimsAlone traced (.request id action))
    (claimed : system.claimedSlot traced.world id action = some slot)
    (acted : system.act traced.world id action = some (after, phase))
    (world : World)
    (phasesEq : world.phases = update traced.world.phases id phase)
    (carries : system.Carries slot other) (canRelease : (world.phases other).CanRelease)
    {row : InboxRow} (found : after slot = some row)
    (awaits : row.awaits (system.requests other).requestHash = true) :
    Traced.OwnOrStopped ⟨world, system.claimantAfter traced (.request id action)⟩ slot other := by
  unfold Traced.OwnOrStopped
  dsimp only
  rw [claimantAfter_of_claimed claimed, phasesEq]
  by_cases isActor : other = id
  · exact .inl (congrArg some isActor.symm)
  · rw [phasesEq, update_of_ne isActor] at canRelease
    by_cases running : (traced.world.phases id).Running
    · -- The new row has the claimant's hash, so the other request has it too.
      obtain ⟨expiresAt, written⟩ := inbox_of_claimed claimed acted
      rw [written] at found
      cases found
      simp only [InboxRow.awaits, claimRow, Bool.and_true, beq_iff_eq] at awaits
      exact absurd canRelease (alone slot claimed running other isActor carries awaits.symm)
    · refine .inr ⟨id, rfl, ?_⟩
      rw [update_self]
      exact not_running_of_act running acted

theorem ReleaseInvariant.step (invariant : ReleaseInvariant system traced)
    (alone : system.ClaimsAlone traced event)
    (stepEq : system.tracedStep traced event = some next) :
    ReleaseInvariant system next := by
  obtain ⟨world, worldEq, rfl⟩ := Option.map_eq_some_iff.mp stepEq
  refine ⟨invariant.owned.step worldEq, ?_⟩
  cases event with
  | request id action =>
    obtain ⟨⟨after, phase⟩, acted, rfl⟩ := Option.map_eq_some_iff.mp worldEq
    intro slot other row carries canRelease found awaits
    by_cases claimed : system.claimedSlot traced.world id action = some slot
    · exact ReleaseInvariant.claims_of_claimed alone claimed acted _ rfl carries
        canRelease found awaits
    refine Traced.OwnOrStopped.step ?_ claimed acted _ rfl
    dsimp only at canRelease found
    by_cases actorCarries : system.Carries slot id
    · have effect := effect_of_act actorCarries acted
      -- Without a claim the row and the right to release it are older.
      have before : traced.world.inbox slot = some row := by
        have rowEffect := effect.rowEffect slot
        generalize after slot = written at rowEffect found
        cases rowEffect with
        | kept => exact found
        | claimed _ sends free =>
          exact absurd (claimedSlot_eq_some_iff.mpr ⟨actorCarries, sends, free⟩) claimed
        | recorded =>
          cases found
          simp [InboxRow.awaits, recordRow] at awaits
        | released => cases found
      refine invariant.claims slot other row carries ?_ before awaits
      by_cases isActor : other = id
      · subst isActor
        rw [update_self] at canRelease
        rcases effect.canRelease canRelease with could | ⟨sends, free⟩
        · exact could
        · exact absurd (claimedSlot_eq_some_iff.mpr ⟨carries, sends, free⟩) claimed
      · rwa [update_of_ne isActor] at canRelease
    · have differs : other ≠ id := by
        rintro rfl
        exact actorCarries carries
      rw [update_of_ne differs] at canRelease
      rw [act_other invariant.owned actorCarries acted] at found
      exact invariant.claims slot other row carries canRelease found awaits
  | tick elapsed =>
    cases worldEq
    exact invariant.claims
  | purge purged =>
    cases worldEq
    intro slot id row carries canRelease found
    exact invariant.claims slot id row carries canRelease (purgeExpired_eq_some found)

/-- A request releases only its own claim: in every run in which slots are claimed
alone, a step of a request that deletes a row deletes one that the request claimed
itself, or whose claimant is over or cancelled. -/
theorem releases_own_claim (system : System) (now : Int) (events : List Event) (traced : Traced)
    (alone : GuardedRun system.tracedStep system.ClaimsAlone (Traced.start now) events)
    (runEq : run system.tracedStep (Traced.start now) events = some traced)
    (id : Nat) (action : Action) (next : Traced)
    (stepEq : system.tracedStep traced (.request id action) = some next)
    (slot : Slot) (row : InboxRow) (found : traced.world.inbox slot = some row)
    (deleted : next.world.inbox slot = none) :
    traced.OwnOrStopped slot id := by
  have invariant : ReleaseInvariant system traced :=
    invariant_of_guardedRun (fun _ _ _ kept alone stepEq => kept.step alone stepEq)
      (releaseInvariant_start now) alone runEq
  obtain ⟨world, worldEq, rfl⟩ := Option.map_eq_some_iff.mp stepEq
  obtain ⟨⟨after, phase⟩, acted, rfl⟩ := Option.map_eq_some_iff.mp worldEq
  dsimp only at deleted
  by_cases carries : system.Carries slot id
  · have effect := effect_of_act carries acted
    have rowEffect := effect.rowEffect slot
    generalize after slot = written at rowEffect deleted
    cases rowEffect with
    | kept =>
      rw [found] at deleted
      cases deleted
    | claimed | recorded => cases deleted
    | released makes isSlot released awaits =>
      rename_i guard held
      have owned := invariant.owned id slot carries
      have hashEq : guard.requestHash = (system.requests id).requestHash := by
        rcases makes with isRelease | isRelease <;>
        · rw [isRelease] at owned
          exact owned.2
      rw [hashEq] at awaits
      exact invariant.claims slot id held carries (canRelease_of_makes makes) released awaits
  · rw [act_other invariant.owned carries acted, found] at deleted
    cases deleted

end Steps

/-! ## Runs -/

instance (phase : Phase) : Decidable phase.CanRelease := by
  unfold Phase.CanRelease
  split <;> infer_instance

/-- Only the first requests act, and when one of them claims no other may release. -/
def System.ClaimsChecked (system : System) (bound : Nat) (traced : Traced) : Event → Prop
  | .request id action =>
    id < bound ∧ ((system.claimedSlot traced.world id action).isSome = true →
      ∀ other < bound, other ≠ id → ¬ (traced.world.phases other).CanRelease)
  | .tick _ | .purge _ => True

instance (system : System) (bound : Nat) (traced : Traced) (event : Event) :
    Decidable (system.ClaimsChecked bound traced event) :=
  match event with
  | .request _ _ => instDecidableAnd
  | .tick _ | .purge _ => instDecidableTrue

/-- Only the first requests have started. -/
def Traced.Below (bound : Nat) (traced : Traced) : Prop :=
  ∀ other, bound ≤ other → traced.world.phases other = .idle

theorem guardedRun_of_claimsChecked {system : System} {bound : Nat} {traced : Traced}
    {events : List Event} (below : traced.Below bound)
    (checked : GuardedRun system.tracedStep (system.ClaimsChecked bound) traced events) :
    GuardedRun system.tracedStep system.ClaimsAlone traced events := by
  refine guardedRun_of_invariant ?_ ?_ below checked
  · intro source event target below checked stepEq
    obtain ⟨world, worldEq, rfl⟩ := Option.map_eq_some_iff.mp stepEq
    cases event with
    | request id action =>
      obtain ⟨result, _, rfl⟩ := Option.map_eq_some_iff.mp worldEq
      intro other isAbove
      exact (update_of_ne (Nat.ne_of_gt (Nat.lt_of_lt_of_le checked.1 isAbove)) ..).trans
        (below other isAbove)
    | tick | purge =>
      cases worldEq
      exact below
  · intro source event below checked
    cases event with
    | request id action =>
      intro slot claimed _ other differs _ _
      by_cases isBelow : other < bound
      · exact checked.2 (by rw [claimed]; rfl) other isBelow differs
      · rw [below other (Nat.le_of_not_lt isBelow)]
        exact not_false
    | tick | purge => trivial

/-- Two requests race for the claim, and the one that has it fails while the other polls. -/
def failedRace : List Event :=
  racingRetries.take 7 ++ [.request 0 .fail]

/-- The world before the claim is released. -/
def failedWorld : Traced :=
  (run retries.tracedStep (Traced.start 0) failedRace).getD (Traced.start 0)

/-- The release deletes the request's own claim. -/
theorem releases_own_claim_failed : failedWorld.OwnOrStopped retrySlot 0 :=
  releases_own_claim retries 0 failedRace failedWorld
    (guardedRun_of_claimsChecked (fun _ _ => rfl : Traced.Below 2 _) (by decide +kernel)) rfl 0
    (.release .delivered) _ rfl retrySlot (claimRow "c0ffee" 60) rfl rfl

/-- A retry with the same bytes takes over the expired claim of a request that is
still at work and then fails. -/
def overtakenRequest : List Event :=
  claims 0 90 ++ [.tick 100] ++ claims 1 190 ++ [.request 0 .fail]

/-- The failed request deletes the claim of the retry, which is running. -/
theorem release_deletes_claim_of_retry : ∃ traced next,
      run retries.tracedStep (Traced.start 0) overtakenRequest = some traced ∧
      retries.tracedStep traced (.request 0 (.release .delivered)) = some next ∧
      traced.world.inbox retrySlot = some (claimRow "c0ffee" 190) ∧
      next.world.inbox retrySlot = none ∧
      traced.claimant retrySlot = some 1 ∧ (traced.world.phases 1).Running ∧
      ¬ traced.OwnOrStopped retrySlot 0 := by
  refine ⟨_, _, rfl, rfl, rfl, rfl, rfl, trivial, ?_⟩
  rintro (own | ⟨other, isClaimant, stopped⟩)
  · cases own
  · cases isClaimant
    exact stopped trivial

end Caura.Idempotency
