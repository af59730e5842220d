import Caura.Idempotency.Protocol

/-!
# What a request does to a row

A step of a request leaves the row of a slot alone, claims the slot, writes a
recorded response, or deletes the pending row it awaits.  The calls of a task that
was cancelled land as those of a running one do, so that each case is about the
call that is made and not about the task that makes it.
-/

namespace Caura.Idempotency

open Caura.Value Function

/-- The task makes this call next, or it is cancelled and the call is under way. -/
def Phase.Makes (phase call : Phase) : Prop :=
  phase = call ∨ phase = .detached call

/-- The step sends a claim that takes effect if the slot is free. -/
def Phase.sendsClaim : Phase → Action → Bool
  | .claim, .claim _ .delivered | .claim, .claim _ .lost | .detached .claim, .land _ => true
  | _, _ => false

/-- The row of a slot after a step of a request. -/
inductive RowEffect (requestHash : String) (slot : Slot) (now : Int) (inbox : Inbox)
    (phase : Phase) (action : Action) (other : Slot) : Option InboxRow → Prop where
  | kept : RowEffect requestHash slot now inbox phase action other (inbox other)
  | claimed (expiresAt : Int) (sends : phase.sendsClaim action = true)
      (free : idempotencyGet inbox now slot = none) (isSlot : other = slot) :
      RowEffect requestHash slot now inbox phase action other
        (some (claimRow requestHash expiresAt))
  | recorded {guard : IdempotencyGuard} {responseBody : Json} {statusCode : Int}
      {expiresAt : Int} {stage : RecordStage}
      (makes : phase.Makes (.record guard responseBody statusCode expiresAt stage))
      (isSlot : other = guard.slot) :
      RowEffect requestHash slot now inbox phase action other
        (some (recordRow guard.requestHash responseBody statusCode expiresAt))
  | released {guard : IdempotencyGuard} {row : InboxRow}
      (makes : phase.Makes (.release guard)) (isSlot : other = guard.slot)
      (found : inbox other = some row) (awaits : row.awaits guard.requestHash = true) :
      RowEffect requestHash slot now inbox phase action other none

section Statements

variable {requestHash : String} {slot other : Slot} {now : Int} {inbox after : Inbox}
  {phase next : Phase} {action : Action} {expiresAt statusCode : Int}

theorem rowEffect_of_claim (sends : phase.sendsClaim action = true)
    (won : idempotencyClaim inbox now slot requestHash expiresAt = some after) :
    RowEffect requestHash slot now inbox phase action other (after other) := by
  obtain ⟨free, rfl⟩ := idempotencyClaim_eq_some won
  by_cases isSlot : other = slot
  · rw [isSlot, update_self]
    exact .claimed expiresAt sends free rfl
  · rw [update_of_ne isSlot]
    exact .kept

variable {guard : IdempotencyGuard} {responseBody : Json} {stage : RecordStage}

section

variable (makes : phase.Makes (.record guard responseBody statusCode expiresAt stage))

include makes

/-- Whichever statement of a record call writes, it writes the response. -/
theorem rowEffect_of_write (written : after = Function.update inbox guard.slot
      (some (recordRow guard.requestHash responseBody statusCode expiresAt))) :
    RowEffect requestHash slot now inbox phase action other (after other) := by
  by_cases isSlot : other = guard.slot
  · rw [written, isSlot, update_self]
    exact .recorded makes rfl
  · rw [written, update_of_ne isSlot]
    exact .kept

theorem rowEffect_of_recordStep
    (stepped : recordStep inbox guard responseBody statusCode expiresAt stage = (after, next)) :
    RowEffect requestHash slot now inbox phase action other (after other) := by
  rcases recordStep_cases stepped with ⟨_, completed | inserted | rfl⟩ | ⟨rfl, _⟩
  · exact rowEffect_of_write makes (idempotencyComplete_eq_some completed)
  · exact rowEffect_of_write makes (idempotencyInsert_eq_some inserted)
  · exact .kept
  · exact .kept

end

theorem rowEffect_of_release (makes : phase.Makes (.release guard)) :
    RowEffect requestHash slot now inbox phase action other
      (idempotencyRelease inbox guard.slot guard.requestHash other) := by
  by_cases isSlot : other = guard.slot
  · subst isSlot
    cases found : inbox guard.slot with
    | none =>
      have same : idempotencyRelease inbox guard.slot guard.requestHash = inbox := by
        simp [idempotencyRelease, found]
      rw [same]
      exact .kept
    | some row =>
      by_cases awaits : row.awaits guard.requestHash = true
      · rw [idempotencyRelease_of_awaits found awaits, update_self]
        exact .released makes rfl found awaits
      · have same : idempotencyRelease inbox guard.slot guard.requestHash = inbox := by
          simp [idempotencyRelease, found, awaits]
        rw [same]
        exact .kept
  · rw [idempotencyRelease_other isSlot]
    exact .kept

/-- Every effect has one of the four effects on the row of a slot. -/
theorem Effect.rowEffect (effect : Effect requestHash slot now inbox phase action after next)
    (other : Slot) :
    RowEffect requestHash slot now inbox phase action other (after other) := by
  cases effect with
  | claimed _ won | claimLost _ won => exact rowEffect_of_claim rfl won
  | recorded _ _ _ _ _ _ stepped => exact rowEffect_of_recordStep (.inl rfl) stepped
  | released | releaseLost => exact rowEffect_of_release (.inl rfl)
  | landed expiresAt landed =>
    rcases landStep_cases landed with ⟨rfl, _, rfl⟩ |
      ⟨_, _, _, _, _, _, rfl, stepped, _⟩ | ⟨_, rfl, _, rfl⟩
    · cases won : idempotencyClaim inbox now slot requestHash expiresAt with
      | none => exact .kept
      | some result => exact rowEffect_of_claim rfl won
    · exact rowEffect_of_recordStep (.inr rfl) stepped
    · exact rowEffect_of_release (.inr rfl)
  | decided | degraded | refused | finished | failed | recordFailed | releaseFailed |
    cancelled => exact .kept

end Statements

/-- The purge only deletes rows. -/
theorem purgeExpired_eq_some {inbox : Inbox} {now : Int} {purged slot : Slot}
    {row : InboxRow} (found : purgeExpired inbox now purged slot = some row) :
    inbox slot = some row := by
  unfold purgeExpired at found
  by_cases isPurged : slot = purged
  · rw [isPurged, update_self] at found
    rw [isPurged]
    exact (idempotencyGet_eq_some_iff.mp found).1
  · rwa [update_of_ne isPurged] at found

end Caura.Idempotency
