import Caura.Value.DateTime
import Mathlib.Data.List.Forall2

/-!
# Correction records

A correction has a status and a notice for each of its recipients.  Four statements change
a record: the beginning of a send, the write of states that were computed from an earlier
read, the confirmation of a recipient, and the delivery of a notice by a recall.

The write of states replaces the whole notice of a recipient.  It leaves a confirmed notice
alone unless it writes a confirmed one, and it writes any status over any but `preview`.
-/

namespace Caura.Correction

open Caura.Value

/-- `notice_state`. -/
inductive NoticeState
  | pending
  | sent
  | delivered
  | confirmed
  | late
  | failed
  | unreachable
  deriving DecidableEq, Repr

/-- `channel`. -/
inductive Channel
  | bus
  | recall
  deriving DecidableEq, Repr

/-- `status`. -/
inductive CorrectionStatus
  | preview
  | sending
  | sent
  | closed
  deriving DecidableEq, Repr

/-- The delivery state of a recipient. -/
structure Recipient where
  agentId : String
  noticeState : NoticeState := .pending
  channel : Option Channel := none
  confirmedAt : Option Time := none
  notifiedAt : Option Time := none
  nextAttemptAt : Option Time := none
  attempts : Nat := 0
  busMessageId : Option String := none
  busDeliveryId : Option String := none
  deriving DecidableEq, Repr

/-- A row of `memory_correction` with its recipients. -/
structure CorrectionRecord where
  status : CorrectionStatus := .preview
  sentAt : Option Time := none
  sentBy : Option String := none
  busCheckedAt : Option Time := none
  recipients : List Recipient
  deriving DecidableEq, Repr

/-! ## Statements -/

/-- `correction_begin_send`. -/
def correctionBeginSend (now : Time) (sentBy : String) (record : CorrectionRecord) :
    CorrectionRecord :=
  if record.status = .preview then
    { record with status := .sending, sentAt := some now, sentBy := some sentBy }
  else
    record

/-- What the update of one recipient makes of a row. -/
def updatedRow (row update : Recipient) : Recipient :=
  if row.agentId = update.agentId ∧
      (update.noticeState = .confirmed ∨ row.noticeState ≠ .confirmed) then
    update
  else
    row

/-- What the updates make of a row, one after the other. -/
def rowAfter (updates : List Recipient) (row : Recipient) : Recipient :=
  updates.foldl updatedRow row

/-- `correction_apply_states`. -/
def correctionApplyStates (updates : List Recipient) (status : Option CorrectionStatus)
    (busCheckedAt : Option Time) (record : CorrectionRecord) : CorrectionRecord :=
  let record := { record with recipients := record.recipients.map (rowAfter updates) }
  if status.isSome ∧ record.status = .preview then
    record
  else
    { record with
      status := status.getD record.status
      busCheckedAt := busCheckedAt.or record.busCheckedAt }

/-- `correction_confirm`. -/
def correctionConfirm (now : Time) (agentId : String) (record : CorrectionRecord) :
    CorrectionRecord :=
  { record with
    recipients := record.recipients.map fun row =>
      if row.agentId = agentId then
        { row with
          noticeState := .confirmed
          confirmedAt := row.confirmedAt.or (some now)
          nextAttemptAt := none }
      else
        row }

/-- `correction_notices_delivered`. -/
def correctionNoticesDelivered (now : Time) (agentId : String) (record : CorrectionRecord) :
    CorrectionRecord :=
  { record with
    recipients := record.recipients.map fun row =>
      if row.agentId = agentId ∧ row.noticeState ∈ [.pending, .sent, .unreachable] then
        { row with
          noticeState := .delivered
          notifiedAt := row.notifiedAt.or (some now) }
      else
        row }

/-! ## Progress -/

/-- `_SETTLED_STATES`. -/
def NoticeState.settled (state : NoticeState) : Bool :=
  state = .confirmed || state = .failed

/-- A state in which the agent has had the notice, or never will. -/
def NoticeState.reached (state : NoticeState) : Bool :=
  state = .delivered || state = .late || state.settled

/-- A notice moves on. -/
structure Recipient.Kept (before after : Recipient) : Prop where
  agent : after.agentId = before.agentId
  confirmed : before.noticeState = .confirmed → after.noticeState = .confirmed ∧
    ∀ time, before.confirmedAt = some time → after.confirmedAt = some time
  reached : before.noticeState.reached = true → after.noticeState.reached = true
  settled : before.noticeState.settled = true → after.noticeState.settled = true

theorem Recipient.Kept.refl (row : Recipient) : row.Kept row :=
  ⟨rfl, fun isConfirmed => ⟨isConfirmed, fun _ isTime => isTime⟩, id, id⟩

theorem Recipient.Kept.trans {first second third : Recipient} (kept : first.Kept second)
    (later : second.Kept third) : first.Kept third where
  agent := later.agent.trans kept.agent
  confirmed isConfirmed := by
    obtain ⟨stays, sameTime⟩ := kept.confirmed isConfirmed
    obtain ⟨laterStays, laterTime⟩ := later.confirmed stays
    exact ⟨laterStays, fun time isTime => laterTime time (sameTime time isTime)⟩
  reached isReached := later.reached (kept.reached isReached)
  settled isSettled := later.settled (kept.settled isSettled)

variable {rows later last : List Recipient}

/-- Row by row, one relation after another. -/
theorem forall₂_comp {first second both : Recipient → Recipient → Prop}
    (comp : ∀ x y z, first x y → second y z → both x z) (moved : List.Forall₂ first rows later)
    (movedOn : List.Forall₂ second later last) : List.Forall₂ both rows last := by
  induction moved generalizing last with
  | nil =>
    cases movedOn
    exact .nil
  | cons head tail ih =>
    cases movedOn with
    | cons laterHead laterTail => exact .cons (comp _ _ _ head laterHead) (ih laterTail)

/-- A record moves on: every notice does, and a closed correction stays closed. -/
structure CorrectionRecord.Progress (before after : CorrectionRecord) : Prop where
  rows : List.Forall₂ Recipient.Kept before.recipients after.recipients
  closed : before.status = .closed → after.status = .closed

theorem CorrectionRecord.Progress.refl (record : CorrectionRecord) : record.Progress record :=
  ⟨List.forall₂_same.mpr fun row _ => Recipient.Kept.refl row, id⟩

theorem CorrectionRecord.Progress.trans {first second third : CorrectionRecord}
    (progress : first.Progress second) (later : second.Progress third) :
    first.Progress third := by
  refine ⟨forall₂_comp ?_ progress.rows later.rows,
    fun isClosed => later.closed (progress.closed isClosed)⟩
  exact fun _ _ _ kept movedOn => kept.trans movedOn

/-- Rows that are changed one by one. -/
theorem forall₂_map {change : Recipient → Recipient} (kept : ∀ row ∈ rows, row.Kept (change row)) :
    List.Forall₂ Recipient.Kept rows (rows.map change) := by
  rw [List.forall₂_map_right_iff]
  exact List.forall₂_same.mpr kept

theorem progress_correctionBeginSend (now : Time) (sentBy : String) (record : CorrectionRecord) :
    record.Progress (correctionBeginSend now sentBy record) := by
  unfold correctionBeginSend
  split
  next isPreview =>
    refine ⟨(CorrectionRecord.Progress.refl record).rows, fun isClosed => ?_⟩
    cases isPreview.symm.trans isClosed
  · exact CorrectionRecord.Progress.refl record

theorem progress_correctionConfirm (now : Time) (agentId : String) (record : CorrectionRecord) :
    record.Progress (correctionConfirm now agentId record) := by
  refine ⟨forall₂_map fun row _ => ?_, id⟩
  split
  · exact ⟨rfl, fun _ => ⟨rfl, fun time isTime => by simp [isTime]⟩, fun _ => rfl, fun _ => rfl⟩
  · exact Recipient.Kept.refl row

theorem progress_correctionNoticesDelivered (now : Time) (agentId : String)
    (record : CorrectionRecord) :
    record.Progress (correctionNoticesDelivered now agentId record) := by
  have unreached : ∀ state ∈ [NoticeState.pending, .sent, .unreachable],
      state ≠ .confirmed ∧ state.settled = false := by
    decide
  refine ⟨forall₂_map fun row _ => ?_, id⟩
  split
  next moves =>
    obtain ⟨notConfirmed, notSettled⟩ := unreached row.noticeState moves.2
    exact ⟨rfl, fun isConfirmed => absurd isConfirmed notConfirmed, fun _ => rfl,
      fun isSettled => nomatch notSettled.symm.trans isSettled⟩
  · exact Recipient.Kept.refl row

/-! ## What updates make of a row -/

theorem agentId_updatedRow {row update : Recipient} :
    (updatedRow row update).agentId = row.agentId := by
  unfold updatedRow
  split
  next applies => exact applies.1.symm
  · rfl

theorem agentId_rowAfter (updates : List Recipient) (row : Recipient) :
    (rowAfter updates row).agentId = row.agentId := by
  induction updates generalizing row with
  | nil => rfl
  | cons update updates ih => exact (ih _).trans agentId_updatedRow

/-- A row is as it was, or one of its updates. -/
theorem rowAfter_eq_or_mem (updates : List Recipient) (row : Recipient) :
    rowAfter updates row = row ∨
      ∃ update ∈ updates, update.agentId = row.agentId ∧ rowAfter updates row = update := by
  induction updates generalizing row with
  | nil => exact .inl rfl
  | cons update updates ih =>
    rcases ih (updatedRow row update) with same | ⟨later, laterMem, sameAgent, isLater⟩
    · by_cases applies : row.agentId = update.agentId ∧
          (update.noticeState = .confirmed ∨ row.noticeState ≠ .confirmed)
      · exact .inr ⟨update, .head _, applies.1.symm, same.trans (if_pos applies)⟩
      · exact .inl (same.trans (if_neg applies))
    · exact .inr ⟨later, .tail _ laterMem, sameAgent.trans agentId_updatedRow, isLater⟩

end Caura.Correction
