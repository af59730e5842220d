import Caura.Value.Json

/-!
# The idempotency inbox

The table `idempotency_responses` has one row for each tenant and stored key.  A
row is claimed while its request runs, with an empty body and the status `0`, and
completed once the response is recorded.  Rows expire; an expired row is absent
for readers and free to be claimed.

Every function here is one statement of the storage service.  The three
statements of `idempotency_record` share a transaction but not a snapshot, so
other requests may run between them and each is its own step.
-/

namespace Caura.Idempotency

open Caura.Value Function

/-! ## Rows -/

/-- The primary key: the tenant and the stored key. -/
structure Slot where
  tenantId : String
  idempotencyKey : String
  deriving DecidableEq, Repr

/-- The columns of a row behind its primary key. -/
structure InboxRow where
  requestHash : String
  responseBody : Json
  statusCode : Int
  expiresAt : Int
  isPending : Bool

/-- The table `idempotency_responses`. -/
abbrev Inbox := Slot → Option InboxRow

/-- The row a claim writes. -/
def claimRow (requestHash : String) (expiresAt : Int) : InboxRow where
  requestHash := requestHash
  responseBody := .obj []
  statusCode := 0
  expiresAt := expiresAt
  isPending := true

/-- The row of a recorded response. -/
def recordRow (requestHash : String) (responseBody : Json) (statusCode expiresAt : Int) :
    InboxRow where
  requestHash := requestHash
  responseBody := responseBody
  statusCode := statusCode
  expiresAt := expiresAt
  isPending := false

/-- A row that waits for the response to a request with this hash. -/
def InboxRow.awaits (row : InboxRow) (requestHash : String) : Bool :=
  row.requestHash == requestHash && row.isPending

/-! ## Statements -/

/-- `idempotency_get`: the row of a slot unless it is expired. -/
def idempotencyGet (inbox : Inbox) (now : Int) (slot : Slot) : Option InboxRow :=
  (inbox slot).filter fun row => now < row.expiresAt

/-- `idempotency_claim`: insert a pending row or take over an expired one.  A live
row refuses the claim. -/
def idempotencyClaim (inbox : Inbox) (now : Int) (slot : Slot) (requestHash : String)
    (expiresAt : Int) : Option Inbox :=
  match idempotencyGet inbox now slot with
  | some _ => none
  | none => some (update inbox slot (some (claimRow requestHash expiresAt)))

/-- The `UPDATE` of `idempotency_record`: complete the pending row of the request,
expired or not. -/
def idempotencyComplete (inbox : Inbox) (slot : Slot) (requestHash : String)
    (responseBody : Json) (statusCode expiresAt : Int) : Option Inbox :=
  match inbox slot with
  | some row =>
    if row.awaits requestHash then
      some (update inbox slot
        (some (recordRow requestHash responseBody statusCode expiresAt)))
    else
      none
  | none => none

/-- The `INSERT` of `idempotency_record`, which a row of any kind refuses. -/
def idempotencyInsert (inbox : Inbox) (slot : Slot) (requestHash : String)
    (responseBody : Json) (statusCode expiresAt : Int) : Option Inbox :=
  match inbox slot with
  | some _ => none
  | none =>
    some (update inbox slot
      (some (recordRow requestHash responseBody statusCode expiresAt)))

/-- `idempotency_release`: delete the pending row of the request. -/
def idempotencyRelease (inbox : Inbox) (slot : Slot) (requestHash : String) : Inbox :=
  match inbox slot with
  | some row =>
    if row.awaits requestHash then update inbox slot none else inbox
  | none => inbox

/-- The daily purge, at one slot: an expired row is deleted. -/
def purgeExpired (inbox : Inbox) (now : Int) (slot : Slot) : Inbox :=
  update inbox slot (idempotencyGet inbox now slot)

/-! ## What the statements do -/

section Statements

variable {inbox after : Inbox} {now expiresAt statusCode : Int} {slot other : Slot}
  {requestHash : String} {responseBody : Json} {row : InboxRow}

theorem idempotencyGet_eq_some_iff : idempotencyGet inbox now slot = some row ↔
      inbox slot = some row ∧ now < row.expiresAt := by
  simp [idempotencyGet]

/-- The row of the slot, if any, is not expired. -/
def LiveSlot (inbox : Inbox) (now : Int) (slot : Slot) : Prop :=
  ∀ row ∈ inbox slot, now < row.expiresAt

instance : Decidable (LiveSlot inbox now slot) :=
  inferInstanceAs (Decidable (∀ row ∈ inbox slot, now < row.expiresAt))

theorem idempotencyGet_of_live (live : LiveSlot inbox now slot) :
    idempotencyGet inbox now slot = inbox slot := by
  cases found : inbox slot with
  | none => simp [idempotencyGet, found]
  | some row => exact idempotencyGet_eq_some_iff.mpr ⟨found, live row found⟩

theorem idempotencyClaim_eq_some
    (claimed : idempotencyClaim inbox now slot requestHash expiresAt = some after) :
    idempotencyGet inbox now slot = none ∧
      after = update inbox slot (some (claimRow requestHash expiresAt)) := by
  unfold idempotencyClaim at claimed
  cases found : idempotencyGet inbox now slot with
  | some row => simp [found] at claimed
  | none => exact ⟨rfl, by simpa [found] using claimed.symm⟩

theorem idempotencyComplete_of_awaits (found : inbox slot = some row)
    (awaits : row.awaits requestHash) :
    idempotencyComplete inbox slot requestHash responseBody statusCode expiresAt =
      some (update inbox slot
        (some (recordRow requestHash responseBody statusCode expiresAt))) := by
  simp [idempotencyComplete, found, awaits]

theorem idempotencyRelease_of_awaits (found : inbox slot = some row)
    (awaits : row.awaits requestHash) :
    idempotencyRelease inbox slot requestHash = update inbox slot none := by
  simp [idempotencyRelease, found, awaits]

/-! A statement leaves the other slots alone. -/

theorem idempotencyClaim_other (differs : other ≠ slot)
    (claimed : idempotencyClaim inbox now slot requestHash expiresAt = some after) :
    after other = inbox other := by
  rw [(idempotencyClaim_eq_some claimed).2, update_of_ne differs]

theorem idempotencyComplete_eq_some
    (completed : idempotencyComplete inbox slot requestHash responseBody statusCode
      expiresAt = some after) :
    after = update inbox slot (some (recordRow requestHash responseBody statusCode expiresAt)) := by
  unfold idempotencyComplete at completed
  split at completed
  · split at completed
    · exact (Option.some.inj completed).symm
    · cases completed
  · cases completed

theorem idempotencyInsert_eq_some
    (inserted : idempotencyInsert inbox slot requestHash responseBody statusCode
      expiresAt = some after) :
    after = update inbox slot (some (recordRow requestHash responseBody statusCode expiresAt)) := by
  unfold idempotencyInsert at inserted
  split at inserted
  · cases inserted
  · exact (Option.some.inj inserted).symm

theorem idempotencyRelease_other (differs : other ≠ slot) :
    idempotencyRelease inbox slot requestHash other = inbox other := by
  unfold idempotencyRelease
  cases inbox slot with
  | none => rfl
  | some row =>
    dsimp only
    split
    · exact update_of_ne differs _ _
    · rfl

/-- The purge leaves a live slot alone. -/
theorem purgeExpired_of_live (live : LiveSlot inbox now slot) :
    purgeExpired inbox now other slot = inbox slot := by
  unfold purgeExpired
  by_cases isSlot : slot = other
  · subst isSlot
    rw [update_self, idempotencyGet_of_live live]
  · exact update_of_ne isSlot _ _

end Statements

end Caura.Idempotency
