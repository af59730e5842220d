import Caura.Correction.Record
import Caura.Transition.Threads

/-!
# Sends and status reads

A send posts the notices that wait on the bus and writes what the bus answered, in up to
three rounds; a status read also asks the bus for the outcome of each notice.  Both read the
record first and write later the states that they computed from it, so other threads move
between the two.

What the bus answers is arbitrary.
-/

namespace Caura.Correction

open Caura.Transition Caura.Value

/-! ## The bus -/

/-- The result for one recipient. -/
structure BusResult where
  status : String
  messageId : Option String := none
  deliveryId : Option String := none

/-- The answer to one call with at most 200 recipients. -/
inductive BusReply
  | unavailable
  | refused
  | answered (retryAfter : Option Time) (result : String → Option BusResult)

/-- What is known of one agent. -/
structure BusOutcome where
  outcome : String
  repliedAt : Option Time := none
  ackedAt : Option Time := none

/-- The answer to a status read: an error, or what is known of each agent. -/
inductive BusStatus
  | unavailable
  | answered (seen : String → Option BusOutcome)

/-- What a step is told: the time, and what the bus answers. -/
structure Answer where
  now : Time := 0
  replies : Nat → BusReply := fun _ => .unavailable
  status : BusStatus := .unavailable

/-- `BUS_BATCH`. -/
def busBatch : Nat :=
  200

/-- `STATUS_CACHE_S`. -/
def statusCache : Time :=
  30000000

/-- `INLINE_RETRIES`. -/
def inlineRetries : Nat :=
  2

/-- `INLINE_WAIT_MAX_S`. -/
def inlineWaitMax : Time :=
  5000000

/-- `DEFAULT_RETRY_AFTER_S`. -/
def defaultRetryAfter : Time :=
  30000000

/-! ## Recipients -/

/-- `_waits_on_bus`. -/
def Recipient.waitsOnBus (row : Recipient) : Bool :=
  row.noticeState = .pending && row.channel ≠ some .recall

/-- `_due`. -/
def Recipient.due (row : Recipient) (now : Time) : Bool :=
  row.nextAttemptAt.all fun time => time ≤ now

/-- `_OPEN_BUS_STATES`. -/
def NoticeState.isOpen (state : NoticeState) : Bool :=
  state = .sent || state = .delivered || state = .late

/-- `_OUTCOMES`. -/
def outcomeOf : String → Option NoticeState
  | "sent" => some .sent
  | "delivered" => some .delivered
  | "confirmed" => some .confirmed
  | "late" => some .late
  | "failed" => some .failed
  | _ => none

/-- `_status_after`. -/
def statusAfter (recipients : List Recipient) (current : CorrectionStatus) : CorrectionStatus :=
  if recipients.any Recipient.waitsOnBus then
    .sending
  else if !recipients.isEmpty && recipients.all fun row => row.noticeState.settled then
    .closed
  else if current = .preview ∨ current = .sending then
    .sent
  else
    current

/-- A recipient as the updates have it. -/
def mergedRow (updates : List Recipient) (row : Recipient) : Recipient :=
  (updates.reverse.find? fun update => update.agentId = row.agentId).getD row

/-! ## Sends -/

/-- When to try again after an answer of the bus. -/
def retryAfterOf (retryAfter : Option Time) : Time :=
  (retryAfter.filter fun after => after ≠ 0).getD defaultRetryAfter

/-- The state of a recipient after a call to the bus. -/
def sendUpdate (now : Time) (reply : BusReply) (row : Recipient) : Recipient :=
  match reply with
  | .unavailable =>
    { row with
      channel := some .bus
      attempts := row.attempts + 1
      nextAttemptAt := some (now + defaultRetryAfter) }
  | .refused =>
    { row with channel := some .recall, noticeState := .pending }
  | .answered retryAfter result =>
    let status := (result row.agentId).map BusResult.status
    if status = some "accepted" ∨ status = some "already_sent" then
      { row with
        channel := some .bus
        noticeState := .sent
        attempts := row.attempts + 1
        notifiedAt := row.notifiedAt.or (some now)
        nextAttemptAt := none
        busMessageId := (result row.agentId).bind BusResult.messageId
        busDeliveryId := (result row.agentId).bind BusResult.deliveryId }
    else if status = some "unknown_agent" then
      { row with
        channel := some .recall
        noticeState := .pending
        attempts := row.attempts + 1
        nextAttemptAt := none }
    else
      { row with
        channel := some .bus
        attempts := row.attempts + 1
        nextAttemptAt := some (now + retryAfterOf retryAfter) }

/-- How long a recipient has to wait after a call to the bus. -/
def sendWait (reply : BusReply) (row : Recipient) : Option Time :=
  match reply with
  | .unavailable => some defaultRetryAfter
  | .refused => none
  | .answered retryAfter result =>
    if (result row.agentId).any fun found =>
        found.status ∈ ["accepted", "already_sent", "unknown_agent"] then
      none
    else
      some (retryAfterOf retryAfter)

/-- The recipients of a round with the reply to the batch that each is in. -/
def batched (replies : Nat → BusReply) (due : List Recipient) : List (BusReply × Recipient) :=
  due.zipIdx.map fun entry => (replies (entry.2 / busBatch), entry.1)

/-! ## Phases -/

/-- The arguments of `correction_apply_states`. -/
structure PendingStates where
  updates : List Recipient
  status : CorrectionStatus
  busCheckedAt : Option Time := none

/-- Where a thread goes on after its write: nowhere, or after a round of a send. -/
inductive Continuation
  | stop
  | sent (isRefresh : Bool) (round : Nat) (now : Time) (retryIn : Option Time)

/-- Where a thread waits for the storage or for the bus. -/
inductive Phase
  | beginning (sentBy : String)
  | reading (isRefresh : Bool)
  | sending (isRefresh : Bool) (round : Nat) (waitedUntil : Time) (record : CorrectionRecord)
  | checking (record : CorrectionRecord)
  | applying (record : CorrectionRecord) (write : PendingStates) (next : Continuation)
  | confirming (agentId : String)
  | recalling (agentId : String)
  | finished

/-- What starts a thread: a send, its retry in the background, a status read, a confirmation,
or a recall that shows the notice. -/
inductive Request
  | send (sentBy : String)
  | retry
  | refresh
  | confirm (agentId : String)
  | recall (agentId : String)

/-- Where it starts. -/
def Request.phase : Request → Phase
  | .send sentBy => .beginning sentBy
  | .retry => .reading false
  | .refresh => .reading true
  | .confirm agentId => .confirming agentId
  | .recall agentId => .recalling agentId

/-- The write of states with the status that follows from them. -/
def applying (record : CorrectionRecord) (updates : List Recipient) (busCheckedAt : Option Time)
    (next : Continuation) : Phase :=
  .applying record
    { updates := updates
      status := statusAfter (record.recipients.map (mergedRow updates)) record.status
      busCheckedAt := busCheckedAt } next

/-- `_close_if_settled`. -/
def closeIfSettled (record : CorrectionRecord) : Phase :=
  if statusAfter record.recipients record.status = .closed then
    .applying record { updates := [], status := .closed } .stop
  else
    .finished

/-- A send or a status read after `_send_due`. -/
def afterSend (isRefresh : Bool) (record : CorrectionRecord) : Phase :=
  if isRefresh then .checking record else .finished

section Steps

variable (busConfigured : Bool)

/-- A round of `_send_due`. -/
def sendRound (isRefresh : Bool) (round : Nat) (waitedUntil : Time) (record : CorrectionRecord)
    (answer : Answer) : Phase :=
  if busConfigured then
    let now := max answer.now waitedUntil
    let due := record.recipients.filter fun row => row.waitsOnBus && row.due now
    if due.isEmpty then
      afterSend isRefresh record
    else
      let calls := batched answer.replies due
      applying record (calls.map fun call => sendUpdate now call.1 call.2) none
        (.sent isRefresh round now (calls.filterMap fun call => sendWait call.1 call.2).min?)
  else
    let toRecall := (record.recipients.filter Recipient.waitsOnBus).map fun row =>
      { row with channel := some .recall }
    if toRecall.isEmpty ∧ statusAfter record.recipients record.status = record.status then
      afterSend isRefresh record
    else
      applying record toRecall none (.sent isRefresh round answer.now none)

/-- The start of a thread that has read the record. -/
def afterRead (isRefresh : Bool) (record : CorrectionRecord) (now : Time) : Phase :=
  if isRefresh then
    if record.status ≠ .sending ∧ record.status ≠ .sent then
      .finished
    else if !busConfigured then
      closeIfSettled record
    else if record.status = .sending ∧
        record.recipients.any fun row => row.waitsOnBus && row.due now then
      .sending true 0 now record
    else
      .checking record
  else if record.status = .sending then
    .sending false 0 now record
  else
    .finished

/-- The state of a recipient after a status read, if it changes. -/
def refreshUpdate (seen : String → Option BusOutcome) (row : Recipient) : Option Recipient :=
  if row.channel = some .bus ∧ row.noticeState.isOpen then
    (seen row.agentId).bind fun found =>
      (outcomeOf found.outcome).bind fun outcome =>
        if outcome = row.noticeState ∨ (outcome = .sent ∧ row.noticeState = .delivered) then
          none
        else
          let confirmedAt :=
            if outcome = .confirmed then found.repliedAt.or found.ackedAt else none
          some { row with noticeState := outcome, confirmedAt := confirmedAt.or row.confirmedAt }
  else
    none

/-- The status read of `refresh_correction`. -/
def checkBus (record : CorrectionRecord) (answer : Answer) : Phase :=
  if record.busCheckedAt.any fun checked => answer.now - checked < statusCache then
    closeIfSettled record
  else if !record.recipients.any fun row =>
      row.channel = some .bus && row.noticeState.isOpen then
    closeIfSettled record
  else
    match answer.status with
    | .unavailable => .finished
    | .answered seen =>
      applying record (record.recipients.filterMap (refreshUpdate seen)) (some answer.now) .stop

/-- Where a thread goes on after its write has returned the record. -/
def afterApply (record : CorrectionRecord) : Continuation → Phase
  | .stop => .finished
  | .sent isRefresh round now retryIn =>
    match retryIn with
    | none => afterSend isRefresh record
    | some wait =>
      if inlineWaitMax < wait ∨ round = inlineRetries then
        afterSend isRefresh record
      else .sending isRefresh (round + 1) (now + wait) record

/-- One step of a thread. -/
def Phase.act (record : CorrectionRecord) (answer : Answer) :
    Phase → Option (CorrectionRecord × Phase)
  | .beginning sentBy =>
    let begun := correctionBeginSend answer.now sentBy record
    some (begun, afterRead busConfigured false begun answer.now)
  | .reading isRefresh => some (record, afterRead busConfigured isRefresh record answer.now)
  | .sending isRefresh round waitedUntil snapshot =>
    some (record, sendRound busConfigured isRefresh round waitedUntil snapshot answer)
  | .checking snapshot => some (record, checkBus snapshot answer)
  | .applying _ write next =>
    let written :=
      correctionApplyStates write.updates (some write.status) write.busCheckedAt record
    some (written, afterApply written next)
  | .confirming agentId => some (correctionConfirm answer.now agentId record, .finished)
  | .recalling agentId => some (correctionNoticesDelivered answer.now agentId record, .finished)
  | .finished => none

/-- The threads of one correction. -/
def correctionSystem : ThreadSystem CorrectionRecord Phase Request Answer where
  init := Request.phase
  act record phase answer := phase.act busConfigured record answer

end Steps

end Caura.Correction
