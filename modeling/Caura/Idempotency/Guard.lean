import Caura.Idempotency.Store

/-!
# The idempotency guard

What `idempotency_for_hash` decides between its storage calls: whether the key is
valid, and what follows from the row that a lookup, a refused claim or a poll has
read.  Each decision ends the request with an error or a guard, or goes on with
the next call.
-/

namespace Caura.Idempotency

open Caura.Value List

/-! ## Requests -/

/-- The transport a key came by. -/
inductive Source where
  | header
  | body
  | mcp
  deriving DecidableEq, Repr

/-- The name of a transport. -/
def Source.text : Source → String
  | .header => "header"
  | .body => "body"
  | .mcp => "mcp"

/-- The arguments of `idempotency_for_hash`. -/
structure Request where
  tenantId : String
  idempotencyKey : Option String
  requestHash : String
  agentId : Option String
  source : Source
  deriving DecidableEq, Repr

/-- `stored_key`, for any name of a transport. -/
def storedKeyOf (source : String) (agentId : Option String) (idempotencyKey : String) : String :=
  let agent := agentId.getD ""
  source ++ ":" ++ toString agent.length ++ ":" ++ agent ++ ":" ++ idempotencyKey

/-- `stored_key`. -/
def storedKey (source : Source) : Option String → String → String :=
  storedKeyOf source.text

/-- What stands before the first colon of a text, and what after it, can be read off. -/
theorem append_colon_inj {first second rest other : List Char} (plain : ':' ∉ first)
    (otherPlain : ':' ∉ second) (same : first ++ ':' :: rest = second ++ ':' :: other) :
    first = second ∧ rest = other := by
  have reads : ∀ {start after : List Char}, ':' ∉ start →
      (start ++ ':' :: after).takeWhile (· != ':') = start := by
    intro start after absent
    rw [takeWhile_append_of_pos fun char charMem => ?_]
    · simp
    · exact bne_iff_ne.mpr fun isColon => absent (isColon ▸ charMem)
  have starts : first = second := by rw [← reads plain, same, reads otherPlain]
  subst starts
  exact ⟨rfl, cons_inj_right _ |>.mp (append_cancel_left same)⟩

/-- The stored key tells the transport, the agent and the key of the client. -/
theorem stored_keys_injective {source other : String} (plain : ':' ∉ source.toList)
    (otherPlain : ':' ∉ other.toList) (agentId otherAgent : Option String) (key otherKey : String)
    (same : storedKeyOf source agentId key = storedKeyOf other otherAgent otherKey) :
    source = other ∧ agentId.getD "" = otherAgent.getD "" ∧ key = otherKey := by
  have lists := congrArg String.toList same
  have colon : ":".toList = [':'] := rfl
  simp only [storedKeyOf, String.toList_append, Nat.toString_eq_repr, Nat.toList_repr, colon,
    append_assoc, singleton_append] at lists
  have noColon : ∀ number, ':' ∉ Nat.toDigits 10 number := by
    intro number isDigit
    exact absurd (Nat.isDigit_of_mem_toDigits (by decide) (by decide) isDigit) (by decide)
  obtain ⟨sameSource, lists⟩ := append_colon_inj plain otherPlain lists
  obtain ⟨sameDigits, lists⟩ := append_colon_inj (noColon _) (noColon _) lists
  have sameLength := congrArg (Nat.ofDigitChars 10 · 0) sameDigits
  simp only [Nat.ofDigitChars_ten_toDigits] at sameLength
  obtain ⟨sameAgent, lists⟩ := append_inj lists (by
    rw [String.length_toList, String.length_toList, sameLength])
  exact ⟨String.toList_injective sameSource, String.toList_injective sameAgent,
    String.toList_injective (tail_eq_of_cons_eq lists)⟩

/-- A missing agent and an empty one have the same keys. -/
theorem stored_keys_injective_header :
    storedKeyOf "header" none "3:a:b" = storedKeyOf "header" (some "") "3:a:b" ∧
      (none : Option String).getD "" = (some "").getD "" :=
  ⟨rfl, (@stored_keys_injective "header" "header" (by decide) (by decide) none (some "") "3:a:b"
    _ rfl).2.1⟩

/-- `MAX_IDEMPOTENCY_KEY_LEN`. -/
def maxIdempotencyKeyLen : Nat :=
  255

/-- The slot a request claims, if it carries a key. -/
def Request.slot (request : Request) : Option Slot :=
  match request.idempotencyKey with
  | none => none
  | some key =>
    if key = "" then none
    else some ⟨request.tenantId, storedKey request.source request.agentId key⟩

/-! ## Errors -/

/-- `HTTPException`. -/
structure HttpError where
  statusCode : Nat
  detail : String
  deriving DecidableEq, Repr

namespace HttpError

/-- The key is blank. -/
def blankKey : HttpError :=
  ⟨400, "Idempotency-Key must not be blank"⟩

/-- The key is too long. -/
def longKey : HttpError :=
  ⟨400, "Idempotency-Key must be at most " ++ toString maxIdempotencyKeyLen ++ " characters"⟩

/-- The key stands for another body. -/
def differentBody : HttpError :=
  ⟨422, "Idempotency-Key reused with a different request body"⟩

/-- The first request is still running. -/
def stillInProgress : HttpError :=
  ⟨409, "Idempotency-Key still in progress; retry shortly"⟩

/-- Storage does not answer. -/
def storageUnavailable : HttpError :=
  ⟨503, "Upstream storage unavailable; retry later"⟩

/-- The first request gave up. -/
def didNotComplete : HttpError :=
  ⟨409, "Previous request did not complete; safe to retry"⟩

end HttpError

/-! ## Guards -/

/-- `IdempotencyGuard`.  `claimed` says that this request inserted the pending
row. -/
structure IdempotencyGuard where
  slot : Slot
  requestHash : String
  cached : Option InboxRow
  claimed : Bool

/-- `cached_replay`. -/
def IdempotencyGuard.cachedReplay (guard : IdempotencyGuard) : Option (Json × Int) :=
  guard.cached.map fun row => (row.responseBody, row.statusCode)

/-- The guard that replays a row. -/
def replayGuard (slot : Slot) (requestHash : String) (row : InboxRow) : IdempotencyGuard :=
  ⟨slot, requestHash, some row, false⟩

/-- The guard of a request that runs its handler. -/
def freshGuard (slot : Slot) (requestHash : String) (claimed : Bool) : IdempotencyGuard :=
  ⟨slot, requestHash, none, claimed⟩

/-! ## Decisions -/

/-- What follows from a validated key or from a row that was read. -/
inductive Decision where
  /-- The request ends with an error. -/
  | raise (error : HttpError)
  /-- The request replays a row. -/
  | replay (row : InboxRow)
  /-- The next call looks the row up. -/
  | lookup
  /-- The next call claims the slot. -/
  | claim
  /-- The next call is the poll with this number. -/
  | poll (attempt : Nat)
  /-- The handler runs without a guard. -/
  | unguarded

/-- The checks before the first call.  `isSpace` is what `str.strip` removes. -/
def validateKey (isSpace : Char → Bool) (idempotencyKey : Option String) : Decision :=
  match idempotencyKey with
  | none => .unguarded
  | some key =>
    if key = "" then .unguarded
    else if key.toList.all isSpace then .raise .blankKey
    else if key.length > maxIdempotencyKeyLen then .raise .longKey
    else .lookup

/-- `_CLAIM_POLL_MAX_ATTEMPTS`. -/
def claimPollMaxAttempts : Nat :=
  20

/-- A row of another request is an error, a completed row is replayed, and a
pending row is polled. -/
def decideRow (requestHash : String) (row : InboxRow) : Decision :=
  if row.requestHash ≠ requestHash then .raise .differentBody
  else if row.isPending then .poll 0
  else .replay row

/-- After the lookup. -/
def afterLookup (requestHash : String) : Option InboxRow → Decision
  | none => .claim
  | some row => decideRow requestHash row

/-- After a refused claim, on the row that refused it unless it is gone. -/
def afterRefusedClaim (requestHash : String) : Option InboxRow → Decision
  | none => .poll 0
  | some row => decideRow requestHash row

/-- After the poll number `attempt` of `_poll_until_complete`. -/
def afterPoll (requestHash : String) (attempt : Nat) : Option InboxRow → Decision
  | none => .raise .didNotComplete
  | some row =>
    if row.isPending then
      if attempt + 1 < claimPollMaxAttempts then .poll (attempt + 1)
      else .raise .stillInProgress
    else if row.requestHash ≠ requestHash then .raise .differentBody
    else .replay row

/-! ## What the decisions say -/

section Decisions

variable {requestHash : String} {row replayed : InboxRow} {found : Option InboxRow}

theorem decideRow_ne_unguarded : decideRow requestHash row ≠ .unguarded := by
  unfold decideRow
  split
  · simp
  · split <;> simp

theorem afterLookup_ne_unguarded : afterLookup requestHash found ≠ .unguarded := by
  cases found with
  | none => simp [afterLookup]
  | some row => exact decideRow_ne_unguarded

theorem afterRefusedClaim_ne_unguarded : afterRefusedClaim requestHash found ≠ .unguarded := by
  cases found with
  | none => simp [afterRefusedClaim]
  | some row => exact decideRow_ne_unguarded

variable {attempt : Nat}

theorem afterPoll_ne_unguarded : afterPoll requestHash attempt found ≠ .unguarded := by
  cases found with
  | none => simp [afterPoll]
  | some row =>
    unfold afterPoll
    dsimp only
    split <;> split <;> simp

variable {isSpace : Char → Bool}

/-- The checks of a key replay nothing. -/
theorem validateKey_ne_replay {key : Option String} :
    validateKey isSpace key ≠ .replay replayed := by
  unfold validateKey
  split
  · simp
  · split
    · simp
    · split
      · simp
      · split <;> simp

/-- Only a request without a key runs without a guard. -/
theorem validateKey_ne_unguarded {request : Request} {slot : Slot}
    (carries : request.slot = some slot) :
    validateKey isSpace request.idempotencyKey ≠ .unguarded := by
  unfold Request.slot at carries
  unfold validateKey
  cases key : request.idempotencyKey with
  | none => simp [key] at carries
  | some text =>
    have nonempty : text ≠ "" := by
      rintro rfl
      simp [key] at carries
    dsimp only
    rw [if_neg nonempty]
    split
    · simp
    · split <;> simp

/-- A replay is of a completed row of the same request. -/
structure Replays (requestHash : String) (found : Option InboxRow)
    (replayed : InboxRow) : Prop where
  found : found = some replayed
  completed : replayed.isPending = false
  sameRequest : replayed.requestHash = requestHash

theorem replays_of_decideRow (decided : decideRow requestHash row = .replay replayed) :
    Replays requestHash (some row) replayed := by
  revert decided
  fun_cases decideRow requestHash row <;> intro decided <;> cases decided
  next sameRequest completed =>
    exact ⟨rfl, by simpa using completed, not_not.mp sameRequest⟩

theorem replays_of_afterLookup (decided : afterLookup requestHash found = .replay replayed) :
    Replays requestHash found replayed := by
  cases found with
  | none => cases decided
  | some row => exact replays_of_decideRow decided

theorem replays_of_afterRefusedClaim
    (decided : afterRefusedClaim requestHash found = .replay replayed) :
    Replays requestHash found replayed := by
  cases found with
  | none => cases decided
  | some row => exact replays_of_decideRow decided

theorem replays_of_afterPoll (decided : afterPoll requestHash attempt found = .replay replayed) :
    Replays requestHash found replayed := by
  revert decided
  fun_cases afterPoll requestHash attempt found <;> intro decided <;> cases decided
  next completed sameRequest =>
    exact ⟨rfl, by simpa using completed, not_not.mp sameRequest⟩

end Decisions

end Caura.Idempotency
