import Caura.Idempotency.Guard
import Caura.Transition.Core

/-!
# Requests over one inbox

Requests with idempotency keys run as independent tasks over one inbox.  A task
looks its slot up, claims it or polls it, runs its handler under a guard, and
records the response or releases the claim.  Every statement of the storage
service is one step, and the steps of different requests interleave freely with
each other, with the clock and with the purge of expired rows.

A storage call may fail without an effect, or take effect and lose its reply.  A
task may be cancelled; a call that is under way then still lands, because the
client shields it.
-/

namespace Caura.Idempotency

open Caura.Value Caura.Transition Function

/-! ## Tasks -/

/-- How a request ended. -/
inductive Outcome where
  | raised (error : HttpError)
  | replayed (guard : IdempotencyGuard)
  | completed (responseBody : Json) (statusCode : Int)
  | failed
  | cancelled

/-- The next statement of `idempotency_record`. -/
inductive RecordStage where
  | complete
  | insert
  | readBack
  deriving DecidableEq

/-- The next call of a task. -/
inductive Phase where
  /-- Not started. -/
  | idle
  /-- The lookup of the row. -/
  | lookup
  /-- The claim of the slot. -/
  | claim
  /-- The claim was refused, and the row that refused it is read next. -/
  | refused
  /-- The poll with this number. -/
  | poll (attempt : Nat)
  /-- The handler runs. -/
  | handler (guard : Option IdempotencyGuard)
  /-- The handler returned this response, which is recorded next. -/
  | record (guard : IdempotencyGuard) (responseBody : Json)
      (statusCode expiresAt : Int) (stage : RecordStage)
  /-- The handler raised, and the claim is released next. -/
  | release (guard : IdempotencyGuard)
  /-- The task is cancelled and this call of it is under way. -/
  | detached (phase : Phase)
  /-- The request is over. -/
  | done (outcome : Outcome)

/-- What becomes of a storage call: its reply arrives, it takes effect and its
reply is lost, or it has no effect. -/
inductive Reply where
  | delivered
  | lost
  | failed
  deriving DecidableEq

/-- A step of a task. -/
inductive Action where
  | start
  | lookup (reply : Reply)
  | claim (expiresAt : Int) (reply : Reply)
  | readRefusal (reply : Reply)
  | poll (reply : Reply)
  | finish (responseBody : Json) (statusCode expiresAt : Int)
  | fail
  | record (reply : Reply)
  | release (reply : Reply)
  | cancel
  | land (expiresAt : Int)

/-- The phase a decision leads to. -/
def Decision.phase (slot : Slot) (requestHash : String) : Decision → Phase
  | .raise error => .done (.raised error)
  | .replay row => .done (.replayed (replayGuard slot requestHash row))
  | .lookup => .lookup
  | .claim => .claim
  | .poll attempt => .poll attempt
  | .unguarded => .handler none

/-- The phase of a task that is cancelled: writes that are under way still
land. -/
def Phase.cancelled : Phase → Phase
  | .claim => .detached .claim
  | .record guard responseBody statusCode expiresAt stage =>
    .detached (.record guard responseBody statusCode expiresAt stage)
  | .release guard => .detached (.release guard)
  | .detached phase => .detached phase
  | _ => .done .cancelled

/-- One statement of `idempotency_record`.  What the last one reads is only
logged. -/
def recordStep (inbox : Inbox) (guard : IdempotencyGuard) (responseBody : Json)
    (statusCode expiresAt : Int) : RecordStage → Inbox × Phase
  | .complete =>
    match idempotencyComplete inbox guard.slot guard.requestHash responseBody
      statusCode expiresAt with
    | some after => (after, .done (.completed responseBody statusCode))
    | none => (inbox, .record guard responseBody statusCode expiresAt .insert)
  | .insert =>
    match idempotencyInsert inbox guard.slot guard.requestHash responseBody
      statusCode expiresAt with
    | some after => (after, .done (.completed responseBody statusCode))
    | none => (inbox, .record guard responseBody statusCode expiresAt .readBack)
  | .readBack => (inbox, .done (.completed responseBody statusCode))

/-- A call that lands although its task is cancelled. -/
def landStep (inbox : Inbox) (now : Int) (slot : Slot) (requestHash : String)
    (expiresAt : Int) : Phase → Option (Inbox × Phase)
  | .claim =>
    some ((idempotencyClaim inbox now slot requestHash expiresAt).getD inbox, .done .cancelled)
  | .record guard responseBody statusCode expiresAt stage =>
    match recordStep inbox guard responseBody statusCode expiresAt stage with
    | (after, .record guard responseBody statusCode expiresAt stage) =>
      some (after, .detached (.record guard responseBody statusCode expiresAt stage))
    | (after, _) => some (after, .done .cancelled)
  | .release guard =>
    some (idempotencyRelease inbox guard.slot guard.requestHash, .done .cancelled)
  | _ => none

/-- A step of a request with a slot. -/
def guardedStep (isSpace : Char → Bool) (request : Request) (slot : Slot) (now : Int)
    (inbox : Inbox) : Phase → Action → Option (Inbox × Phase)
  | .idle, .start =>
    some (inbox, (validateKey isSpace request.idempotencyKey).phase slot request.requestHash)
  | .lookup, .lookup .delivered =>
    some (inbox, (afterLookup request.requestHash
      (idempotencyGet inbox now slot)).phase slot request.requestHash)
  | .lookup, .lookup _ =>
    some (inbox, .handler (some (freshGuard slot request.requestHash false)))
  | .claim, .claim expiresAt .delivered =>
    match idempotencyClaim inbox now slot request.requestHash expiresAt with
    | some after => some (after, .handler (some (freshGuard slot request.requestHash true)))
    | none => some (inbox, .refused)
  | .claim, .claim expiresAt .lost =>
    some ((idempotencyClaim inbox now slot request.requestHash expiresAt).getD inbox,
      .handler (some (freshGuard slot request.requestHash false)))
  | .claim, .claim _ .failed =>
    some (inbox, .handler (some (freshGuard slot request.requestHash false)))
  | .refused, .readRefusal .delivered =>
    some (inbox, (afterRefusedClaim request.requestHash
      (idempotencyGet inbox now slot)).phase slot request.requestHash)
  | .refused, .readRefusal _ =>
    some (inbox, .handler (some (freshGuard slot request.requestHash false)))
  | .poll attempt, .poll .delivered =>
    some (inbox, (afterPoll request.requestHash attempt
      (idempotencyGet inbox now slot)).phase slot request.requestHash)
  | .poll _, .poll _ => some (inbox, .done (.raised .storageUnavailable))
  | .handler (some guard), .finish responseBody statusCode expiresAt =>
    some (inbox, .record guard responseBody statusCode expiresAt .complete)
  | .handler (some guard), .fail =>
    some (inbox, if guard.claimed then .release guard else .done .failed)
  | .record _ responseBody statusCode _ _, .record .failed =>
    some (inbox, .done (.completed responseBody statusCode))
  | .record guard responseBody statusCode expiresAt stage, .record _ =>
    some (recordStep inbox guard responseBody statusCode expiresAt stage)
  | .release guard, .release .delivered =>
    some (idempotencyRelease inbox guard.slot guard.requestHash, .done .failed)
  | .release guard, .release .lost =>
    -- The client may send the deletion again.
    some (idempotencyRelease inbox guard.slot guard.requestHash, .release guard)
  | .release _, .release .failed => some (inbox, .done .failed)
  | .detached phase, .land expiresAt =>
    landStep inbox now slot request.requestHash expiresAt phase
  | .done _, _ => none
  | phase, .cancel => some (inbox, phase.cancelled)
  | _, _ => none

/-- The task holds neither a guard nor a replay, and left nothing in flight. -/
def Phase.Plain : Phase → Prop
  | .idle | .lookup | .claim | .refused | .poll _ | .done (.raised _) | .done .failed => True
  | _ => False

/-- Nothing goes wrong in the step of a request: replies arrive and it is not
cancelled. -/
def Action.undisturbed : Action → Bool
  | .lookup reply | .claim _ reply | .readRefusal reply | .poll reply | .record reply |
    .release reply =>
      reply == .delivered
  | .cancel | .land _ => false
  | .start | .finish .. | .fail => true

/-- What a step of a request with a slot can do. -/
inductive Effect (requestHash : String) (slot : Slot) (now : Int) (inbox : Inbox) :
    Phase → Action → Inbox → Phase → Prop where
  /-- A row was read, or a check or a poll failed, and a decision was made. -/
  | decided {phase : Phase} {action : Action} (decision : Decision)
      (wasPlain : phase.Plain) (guarded : decision ≠ .unguarded)
      (replays : ∀ replayed, decision = .replay replayed →
        Replays requestHash (idempotencyGet inbox now slot) replayed) :
      Effect requestHash slot now inbox phase action inbox
        (decision.phase slot requestHash)
  /-- A call before the handler failed, which then runs without a claim. -/
  | degraded {phase : Phase} {action : Action} (wasPlain : phase.Plain)
      (disturbed : action.undisturbed = false) :
      Effect requestHash slot now inbox phase action inbox
        (.handler (some (freshGuard slot requestHash false)))
  | claimed {after : Inbox} (expiresAt : Int)
      (won : idempotencyClaim inbox now slot requestHash expiresAt = some after) :
      Effect requestHash slot now inbox .claim (.claim expiresAt .delivered) after
        (.handler (some (freshGuard slot requestHash true)))
  | refused (expiresAt : Int)
      (lost : idempotencyClaim inbox now slot requestHash expiresAt = none) :
      Effect requestHash slot now inbox .claim (.claim expiresAt .delivered) inbox
        .refused
  /-- The claim took effect and the task does not know. -/
  | claimLost {after : Inbox} (expiresAt : Int)
      (won : idempotencyClaim inbox now slot requestHash expiresAt = some after) :
      Effect requestHash slot now inbox .claim (.claim expiresAt .lost) after
        (.handler (some (freshGuard slot requestHash false)))
  | finished (guard : IdempotencyGuard) (responseBody : Json)
      (statusCode expiresAt : Int) :
      Effect requestHash slot now inbox (.handler (some guard))
        (.finish responseBody statusCode expiresAt) inbox
        (.record guard responseBody statusCode expiresAt .complete)
  | failed (guard : IdempotencyGuard) :
      Effect requestHash slot now inbox (.handler (some guard)) .fail inbox
        (if guard.claimed then .release guard else .done .failed)
  | recordFailed (guard : IdempotencyGuard) (responseBody : Json)
      (statusCode expiresAt : Int) (stage : RecordStage) :
      Effect requestHash slot now inbox
        (.record guard responseBody statusCode expiresAt stage) (.record .failed) inbox
        (.done (.completed responseBody statusCode))
  | recorded {after : Inbox} {next : Phase} (guard : IdempotencyGuard)
      (responseBody : Json) (statusCode expiresAt : Int) (stage : RecordStage)
      (reply : Reply)
      (stepped : recordStep inbox guard responseBody statusCode expiresAt stage = (after, next)) :
      Effect requestHash slot now inbox
        (.record guard responseBody statusCode expiresAt stage) (.record reply) after next
  | released (guard : IdempotencyGuard) :
      Effect requestHash slot now inbox (.release guard) (.release .delivered)
        (idempotencyRelease inbox guard.slot guard.requestHash) (.done .failed)
  | releaseLost (guard : IdempotencyGuard) :
      Effect requestHash slot now inbox (.release guard) (.release .lost)
        (idempotencyRelease inbox guard.slot guard.requestHash) (.release guard)
  | releaseFailed (guard : IdempotencyGuard) :
      Effect requestHash slot now inbox (.release guard) (.release .failed) inbox
        (.done .failed)
  | landed {phase next : Phase} {after : Inbox} (expiresAt : Int)
      (landed : landStep inbox now slot requestHash expiresAt phase = some (after, next)) :
      Effect requestHash slot now inbox (.detached phase) (.land expiresAt) after next
  | cancelled (phase : Phase) :
      Effect requestHash slot now inbox phase .cancel inbox phase.cancelled

/-- The step function does nothing else. -/
theorem effect_of_guardedStep {isSpace : Char → Bool} {request : Request} {slot : Slot}
    {now : Int} {inbox after : Inbox} {phase next : Phase} {action : Action}
    (carries : request.slot = some slot)
    (stepEq : guardedStep isSpace request slot now inbox phase action = some (after, next)) :
    Effect request.requestHash slot now inbox phase action after next := by
  revert stepEq
  -- One case for each line of the step function, in its order.
  fun_cases guardedStep isSpace request slot now inbox phase action <;> intro stepEq <;>
    try cases stepEq
  case case1 =>
    refine .decided _ trivial (validateKey_ne_unguarded carries) fun replayed decided => ?_
    exact absurd decided validateKey_ne_replay
  case case2 =>
    refine .decided _ trivial ?_ fun _ => replays_of_afterLookup
    exact afterLookup_ne_unguarded
  case case3 delivered => exact .degraded trivial (by simpa [Action.undisturbed] using delivered)
  case case4 won => exact .claimed _ won
  case case5 lost => exact .refused _ lost
  case case6 expiresAt =>
    cases won : idempotencyClaim inbox now slot request.requestHash expiresAt with
    | some result => exact .claimLost expiresAt won
    | none => exact .degraded trivial rfl
  case case7 => exact .degraded trivial rfl
  case case8 =>
    refine .decided _ trivial ?_ fun _ => replays_of_afterRefusedClaim
    exact afterRefusedClaim_ne_unguarded
  case case9 delivered => exact .degraded trivial (by simpa [Action.undisturbed] using delivered)
  case case10 =>
    refine .decided _ trivial ?_ fun _ => replays_of_afterPoll
    exact afterPoll_ne_unguarded
  case case11 => exact .decided (.raise .storageUnavailable) trivial (by simp) (by simp)
  case case12 => exact .finished ..
  case case13 => exact .failed _
  case case14 => exact .recordFailed ..
  case case15 => exact .recorded _ _ _ _ _ _ (Option.some.inj stepEq)
  case case16 => exact .released _
  case case17 => exact .releaseLost _
  case case18 => exact .releaseFailed _
  case case19 => exact .landed _ stepEq
  case case21 => exact .cancelled _

/-- A step of a request without a key. -/
def unguardedStep : Phase → Action → Option Phase
  | .idle, .start => some (.handler none)
  | .handler _, .finish responseBody statusCode _ =>
    some (.done (.completed responseBody statusCode))
  | .handler _, .fail => some (.done .failed)
  | .done _, _ => none
  | phase, .cancel => some phase.cancelled
  | _, _ => none

/-! ## The system -/

/-- A call of `record`: the guard it was made on and the response it was given. -/
structure RecordCall where
  slot : Slot
  requestHash : String
  responseBody : Json
  statusCode : Int

/-- The inbox, the clock of the database, the tasks and the calls of `record` so
far. -/
structure World where
  inbox : Inbox
  now : Int
  phases : Nat → Phase
  recordCalls : List RecordCall

/-- Nothing has happened. -/
def World.start (now : Int) : World where
  inbox _ := none
  now := now
  phases _ := .idle
  recordCalls := []

/-- A step of a request, the clock or the purge. -/
inductive Event where
  | request (id : Nat) (action : Action)
  | tick (elapsed : Nat)
  | purge (slot : Slot)

/-- The call of `record` that a handler's end makes. -/
def recordCall : Phase → Action → List RecordCall
  | .handler (some guard), .finish responseBody statusCode _ =>
    [⟨guard.slot, guard.requestHash, responseBody, statusCode⟩]
  | _, _ => []

/-- The requests of the system, by their number, and what `str.strip` removes. -/
structure System where
  requests : Nat → Request
  isSpace : Char → Bool

/-- What a step of a request does to the inbox and to its phase. -/
def System.act (system : System) (world : World) (id : Nat) (action : Action) :
    Option (Inbox × Phase) :=
  match (system.requests id).slot with
  | none => (unguardedStep (world.phases id) action).map fun phase => (world.inbox, phase)
  | some slot =>
    guardedStep system.isSpace (system.requests id) slot world.now world.inbox
      (world.phases id) action

/-- The system of requests. -/
def System.step (system : System) : Step World Event
  | world, .request id action =>
    (system.act world id action).map fun result =>
      { world with
        inbox := result.1
        phases := update world.phases id result.2
        recordCalls := world.recordCalls ++ recordCall (world.phases id) action }
  | world, .tick elapsed => some { world with now := world.now + elapsed }
  | world, .purge slot => some { world with inbox := purgeExpired world.inbox world.now slot }

/-- The request carries the key of a slot. -/
def System.Carries (system : System) (slot : Slot) (id : Nat) : Prop :=
  (system.requests id).slot = some slot

instance (system : System) (slot : Slot) (id : Nat) : Decidable (system.Carries slot id) :=
  inferInstanceAs (Decidable ((system.requests id).slot = some slot))

/-! ## Guards belong to their requests -/

/-- The guards of the phase are for this slot and this request hash. -/
def Phase.Owned (slot : Slot) (requestHash : String) : Phase → Prop
  | .handler (some guard) | .record guard _ _ _ _ | .release guard | .done (.replayed guard) =>
    guard.slot = slot ∧ guard.requestHash = requestHash
  | .detached phase => phase.Owned slot requestHash
  | _ => True

section Owned

variable {slot other : Slot} {requestHash : String} {now : Int} {inbox after : Inbox}
  {phase next : Phase} {action : Action}

theorem owned_decision_phase (decision : Decision) :
    (decision.phase slot requestHash).Owned slot requestHash := by
  cases decision with
  | replay row => exact ⟨rfl, rfl⟩
  | _ => trivial

theorem owned_cancelled (owned : phase.Owned slot requestHash) :
    phase.cancelled.Owned slot requestHash := by
  cases phase with
  | record | release | detached => exact owned
  | _ => trivial

variable {statusCode expiresAt : Int} {guard : IdempotencyGuard} {responseBody : Json}
  {stage : RecordStage}

section

variable
  (stepped : recordStep inbox guard responseBody statusCode expiresAt stage = (after, next))

include stepped

/-- A statement of a record completes the row of its guard, inserts one, or goes on
with the next statement. -/
theorem recordStep_cases :
    next = .done (.completed responseBody statusCode) ∧
        (idempotencyComplete inbox guard.slot guard.requestHash responseBody statusCode
            expiresAt = some after ∨
          idempotencyInsert inbox guard.slot guard.requestHash responseBody statusCode
            expiresAt = some after ∨ after = inbox) ∨
      after = inbox ∧ ∃ later, next = .record guard responseBody statusCode expiresAt later := by
  cases stage with
  | complete =>
    cases completed : idempotencyComplete inbox guard.slot guard.requestHash
      responseBody statusCode expiresAt with
    | some result =>
      simp only [recordStep, completed] at stepped
      obtain ⟨rfl, rfl⟩ := stepped
      exact .inl ⟨rfl, .inl rfl⟩
    | none =>
      simp only [recordStep, completed, Prod.mk.injEq] at stepped
      exact .inr ⟨stepped.1.symm, .insert, stepped.2.symm⟩
  | insert =>
    cases inserted : idempotencyInsert inbox guard.slot guard.requestHash
      responseBody statusCode expiresAt with
    | some result =>
      simp only [recordStep, inserted] at stepped
      obtain ⟨rfl, rfl⟩ := stepped
      exact .inl ⟨rfl, .inr (.inl rfl)⟩
    | none =>
      simp only [recordStep, inserted, Prod.mk.injEq] at stepped
      exact .inr ⟨stepped.1.symm, .readBack, stepped.2.symm⟩
  | readBack =>
    simp only [recordStep, Prod.mk.injEq] at stepped
    exact .inl ⟨stepped.2.symm, .inr (.inr stepped.1.symm)⟩

/-- A statement of a record leaves other slots alone. -/
theorem recordStep_other (differs : other ≠ guard.slot) : after other = inbox other := by
  rcases recordStep_cases stepped with ⟨_, completed | inserted | rfl⟩ | ⟨rfl, _⟩
  · rw [idempotencyComplete_eq_some completed, update_of_ne differs]
  · rw [idempotencyInsert_eq_some inserted, update_of_ne differs]
  · rfl
  · rfl

theorem recordStep_owned (owned : guard.slot = slot ∧ guard.requestHash = requestHash) :
    next.Owned slot requestHash := by
  rcases recordStep_cases stepped with ⟨rfl, _⟩ | ⟨_, later, rfl⟩
  · trivial
  · exact owned

end

/-- The calls of cancelled tasks that land. -/
theorem landStep_cases
    (landed : landStep inbox now slot requestHash expiresAt phase = some (after, next)) :
    (phase = .claim ∧ next = .done .cancelled ∧
        after = (idempotencyClaim inbox now slot requestHash expiresAt).getD inbox) ∨
      (∃ guard responseBody statusCode expiresAt stage middle,
        phase = .record guard responseBody statusCode expiresAt stage ∧
        recordStep inbox guard responseBody statusCode expiresAt stage =
          (after, middle) ∧ (next = .detached middle ∨ next = .done .cancelled)) ∨
      ∃ guard, phase = .release guard ∧ next = .done .cancelled ∧
        after = idempotencyRelease inbox guard.slot guard.requestHash := by
  cases phase with
  | claim =>
    cases landed
    exact .inl ⟨rfl, rfl, rfl⟩
  | release guard =>
    cases landed
    exact .inr (.inr ⟨guard, rfl, rfl, rfl⟩)
  | record guard responseBody statusCode until_ stage =>
    refine .inr (.inl ⟨guard, responseBody, statusCode, until_, stage, ?_⟩)
    rw [landStep] at landed
    split at landed
    · rename_i stepped
      cases landed
      exact ⟨_, rfl, stepped, .inl rfl⟩
    · rename_i stepped
      cases landed
      exact ⟨_, rfl, stepped, .inr rfl⟩
  | _ => cases landed

/-- A step keeps the guards of its request. -/
theorem Effect.owned (effect : Effect requestHash slot now inbox phase action after next)
    (owned : phase.Owned slot requestHash) : next.Owned slot requestHash := by
  cases effect with
  | decided decision => exact owned_decision_phase decision
  | degraded | claimed | claimLost => exact ⟨rfl, rfl⟩
  | finished => exact owned
  | failed guard =>
    split
    · exact owned
    · trivial
  | recorded _ _ _ _ _ _ stepped => exact recordStep_owned stepped owned
  | releaseLost => exact owned
  | cancelled => exact owned_cancelled owned
  | landed _ landed =>
    rcases landStep_cases landed with ⟨_, rfl, _⟩ |
      ⟨_, _, _, _, _, middle, rfl, stepped, rfl | rfl⟩ | ⟨_, _, rfl, _⟩
    · trivial
    · change middle.Owned slot requestHash
      exact recordStep_owned stepped owned
    · trivial
    · trivial
  | refused | recordFailed | released | releaseFailed => trivial

/-- A step leaves the slots of other requests alone. -/
theorem Effect.inbox_other (effect : Effect requestHash slot now inbox phase action after next)
    (owned : phase.Owned slot requestHash) (differs : other ≠ slot) :
    after other = inbox other := by
  cases effect with
  | claimed _ won | claimLost _ won => exact idempotencyClaim_other differs won
  | recorded _ _ _ _ _ _ stepped => exact recordStep_other stepped (owned.1 ▸ differs)
  | released | releaseLost => exact idempotencyRelease_other (owned.1 ▸ differs)
  | landed _ landed =>
    rcases landStep_cases landed with ⟨_, _, rfl⟩ |
      ⟨_, _, _, _, _, _, rfl, stepped, _⟩ | ⟨_, rfl, _, rfl⟩
    · cases won : idempotencyClaim inbox now slot requestHash _ with
      | none => rfl
      | some result => exact idempotencyClaim_other differs won
    · exact recordStep_other stepped (owned.1 ▸ differs)
    · exact idempotencyRelease_other (owned.1 ▸ differs)
  | _ => rfl

end Owned

/-- All guards belong to their requests. -/
def System.GuardsOwned (system : System) (world : World) : Prop :=
  ∀ id slot, system.Carries slot id →
    (world.phases id).Owned slot (system.requests id).requestHash

section Steps

variable {system : System} {world : World} {slot : Slot} {id : Nat} {action : Action}
  {after : Inbox} {next : Phase}

theorem effect_of_act (carries : system.Carries slot id)
    (acted : system.act world id action = some (after, next)) :
    Effect (system.requests id).requestHash slot world.now world.inbox (world.phases id)
      action after next := by
  unfold System.act at acted
  rw [carries] at acted
  exact effect_of_guardedStep carries acted

/-- A request leaves the slots alone whose key it does not carry. -/
theorem act_other (owned : system.GuardsOwned world) (foreign : ¬ system.Carries slot id)
    (acted : system.act world id action = some (after, next)) :
    after slot = world.inbox slot := by
  cases own : (system.requests id).slot with
  | none =>
    unfold System.act at acted
    rw [own] at acted
    obtain ⟨phase, _, resultEq⟩ := Option.map_eq_some_iff.mp acted
    cases resultEq
    rfl
  | some ownSlot =>
    have differs : slot ≠ ownSlot := by
      rintro rfl
      exact foreign own
    exact (effect_of_act own acted).inbox_other (owned id ownSlot own) differs

theorem guardsOwned_start (now : Int) : system.GuardsOwned (World.start now) :=
  fun _ _ _ => trivial

theorem System.GuardsOwned.step {event : Event} {target : World} (owned : system.GuardsOwned world)
    (stepEq : system.step world event = some target) : system.GuardsOwned target := by
  cases event with
  | request id action =>
    obtain ⟨⟨after, next⟩, acted, rfl⟩ := Option.map_eq_some_iff.mp stepEq
    intro other slot carries
    dsimp only
    by_cases isActor : other = id
    · subst isActor
      rw [update_self]
      exact (effect_of_act carries acted).owned (owned other slot carries)
    · rw [update_of_ne isActor]
      exact owned other slot carries
  | tick elapsed | purge slot =>
    cases stepEq
    exact owned

end Steps

end Caura.Idempotency
