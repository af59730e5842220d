import Caura.Correction.Sender
import Mathlib.Data.List.Induction

/-!
# Notices move forward

A write of states is computed from an earlier read, and other threads move in between.  If
the recipients that it updates still have the notice that it was computed from, and the
correction was not closed in the meantime, then every notice moves on: a confirmed one stays
as it is, a delivered one is never pending or sent again, and a closed correction stays
closed.

A late notice that the bus reports as sent goes back, whatever happened to it before.
-/

namespace Caura.Correction

open Caura.Transition Caura.Value List

/-! ## Notices that move on -/

/-- What a later record keeps of a recipient. -/
@[mk_iff]
structure Recipient.Forward (before after : Recipient) : Prop where
  agent : after.agentId = before.agentId
  confirmed : before.noticeState = .confirmed → after.noticeState = .confirmed ∧
    ∀ time, before.confirmedAt = some time → after.confirmedAt = some time
  delivered : before.noticeState = .delivered →
    after.noticeState ≠ .pending ∧ after.noticeState ≠ .sent

/-- What a later record keeps. -/
@[mk_iff]
structure CorrectionRecord.Forward (before after : CorrectionRecord) : Prop where
  rows : List.Forall₂ Recipient.Forward before.recipients after.recipients
  closed : before.status = .closed → after.status ≠ .sending ∧ after.status ≠ .sent

instance : DecidableRel Recipient.Forward :=
  fun _ _ => decidable_of_iff' _ (Recipient.forward_iff ..)

instance (before after : CorrectionRecord) : Decidable (before.Forward after) :=
  decidable_of_iff ((before.recipients.length = after.recipients.length ∧
      ∀ pair ∈ before.recipients.zip after.recipients, pair.1.Forward pair.2) ∧
    (before.status = .closed → after.status ≠ .sending ∧ after.status ≠ .sent))
    (by rw [CorrectionRecord.forward_iff, forall₂_iff_zip, Prod.forall])

variable {before after row stored : Recipient}

theorem Recipient.Kept.forward (kept : before.Kept after) : before.Forward after where
  agent := kept.agent
  confirmed := kept.confirmed
  delivered isDelivered := by
    have isReached := kept.reached (by rw [isDelivered]; rfl)
    constructor <;>
    · intro isBack
      rw [isBack] at isReached
      cases isReached

theorem CorrectionRecord.Progress.forward {before after : CorrectionRecord}
    (progress : before.Progress after) : before.Forward after where
  rows := progress.rows.imp fun _ _ kept => kept.forward
  closed isClosed := by
    rw [progress.closed isClosed]
    exact ⟨CorrectionStatus.noConfusion, CorrectionStatus.noConfusion⟩

/-! ## The condition -/

/-- A write of states meets the recipients that it updates with the notice that it was computed
from, and a closed correction only if it was computed from one or closes it. -/
structure PendingStates.Meets (write : PendingStates) (record store : CorrectionRecord) : Prop where
  rows : ∀ row ∈ record.recipients, ∀ stored ∈ store.recipients,
    stored.agentId = row.agentId → (∃ update ∈ write.updates, update.agentId = row.agentId) →
      stored.noticeState = row.noticeState
  status : store.status = .closed → record.status = .closed ∨ write.status = .closed

instance (write : PendingStates) (record store : CorrectionRecord) :
    Decidable (write.Meets record store) :=
  decidable_of_iff (_ ∧ _) ⟨fun both => ⟨both.1, both.2⟩, fun meets => ⟨meets.rows, meets.status⟩⟩

/-- The bus does not report a late notice as sent. -/
def BusStatus.NotBack (status : BusStatus) (record : CorrectionRecord) : Prop :=
  match status with
  | .unavailable => True
  | .answered seen =>
    ∀ row ∈ record.recipients, row.noticeState = .late →
      ∀ found ∈ seen row.agentId, found.outcome ≠ "sent"

instance (record : CorrectionRecord) (status : BusStatus) : Decidable (status.NotBack record) := by
  cases status <;> dsimp only [BusStatus.NotBack] <;> infer_instance

/-- What a step meets that its thread has read earlier is as it was. -/
def Phase.Unmoved (phase : Phase) (store : CorrectionRecord) (answer : Answer) : Prop :=
  match phase with
  | .applying record write _ => write.Meets record store
  | .checking record => answer.status.NotBack record
  | _ => True

instance (store : CorrectionRecord) (answer : Answer) (phase : Phase) :
    Decidable (phase.Unmoved store answer) := by
  cases phase <;> dsimp only [Phase.Unmoved] <;> infer_instance

/-- The threads meet what they have read. -/
def Unmoved (world : Pool CorrectionRecord Phase) : ThreadEvent Request Answer → Prop
  | .start _ _ => True
  | .advance pid answer => ∀ phase ∈ world.threads pid, phase.Unmoved world.store answer

instance (world : Pool CorrectionRecord Phase) (event : ThreadEvent Request Answer) :
    Decidable (Unmoved world event) := by
  cases event <;> dsimp only [Unmoved] <;> infer_instance

/-! ## What a thread knows -/

/-- An update of a notice that is not settled, and that does not take it back. -/
structure Recipient.Updates (row update : Recipient) : Prop where
  agent : update.agentId = row.agentId
  unsettled : row.noticeState.settled = false
  reached : row.noticeState.reached = true → update.noticeState.reached = true

/-- The record that a thread has read: what was settled then is settled now, and a closed one
has only settled notices. -/
structure Snapshot (record store : CorrectionRecord) : Prop where
  settled : List.Forall₂ (fun row stored : Recipient => stored.agentId = row.agentId ∧
    (row.noticeState.settled = true → stored.noticeState.settled = true))
    record.recipients store.recipients
  closed : record.status = .closed → ∀ row ∈ record.recipients, row.noticeState.settled = true

/-- A write of states that follows from the record that was read. -/
structure PendingStates.FollowsFrom (write : PendingStates) (record : CorrectionRecord) : Prop where
  updates : ∀ update ∈ write.updates, ∃ row ∈ record.recipients, row.Updates update
  status : write.status =
    statusAfter (record.recipients.map (mergedRow write.updates)) record.status

/-- What a thread knows in its phase. -/
def Phase.Knows (phase : Phase) (store : CorrectionRecord) : Prop :=
  match phase with
  | .sending _ _ _ record | .checking record => Snapshot record store
  | .applying record write _ => Snapshot record store ∧ write.FollowsFrom record
  | _ => True

/-! ## Statuses -/

variable {rows others : List Recipient}

/-- A correction is closed because it was, or because every notice is settled. -/
theorem settled_of_statusAfter {current : CorrectionStatus}
    (isClosed : statusAfter rows current = .closed) :
    current = .closed ∨ ∀ row ∈ rows, row.noticeState.settled = true := by
  revert isClosed
  fun_cases statusAfter rows current <;> intro isClosed
  · cases isClosed
  next allSettled =>
    rw [Bool.and_eq_true, all_eq_true] at allSettled
    exact .inr allSettled.2
  · cases isClosed
  · exact .inl isClosed

theorem statusAfter_of_settled (settled : ∀ row ∈ rows, row.noticeState.settled = true) :
    statusAfter rows .closed = .closed := by
  unfold statusAfter
  rw [if_neg]
  · split
    · rfl
    · exact if_neg (by decide)
  · rw [Bool.not_eq_true, any_eq_false]
    intro row isRow waits
    have isSettled := settled row isRow
    rw [Recipient.waitsOnBus, Bool.and_eq_true, decide_eq_true_eq] at waits
    rw [waits.1] at isSettled
    cases isSettled

theorem map_mergedRow_nil (rows : List Recipient) : rows.map (mergedRow []) = rows :=
  map_id rows

/-- A row is settled if the last of its updates is, or it was and has none. -/
theorem settled_rowAfter {updates : List Recipient} (sameAgent : stored.agentId = row.agentId)
    (kept : row.noticeState.settled = true → stored.noticeState.settled = true)
    (settled : (mergedRow updates row).noticeState.settled = true) :
    (rowAfter updates stored).noticeState.settled = true := by
  -- The last update decides: it is written unless the row is confirmed by then.
  induction updates using List.reverseRecOn with
  | nil => exact kept settled
  | append_singleton updates last ih =>
    have isAfter : rowAfter (updates ++ [last]) stored =
        updatedRow (rowAfter updates stored) last := by
      simp [rowAfter]
    have sameAsRow := (agentId_rowAfter updates stored).trans sameAgent
    rw [mergedRow, reverse_append, reverse_singleton, singleton_append] at settled
    rw [isAfter, updatedRow]
    by_cases isLast : last.agentId = row.agentId
    · rw [List.find?_cons_of_pos (by simpa using isLast)] at settled
      split
      · exact settled
      next notApplied =>
        rw [not_and, not_or, not_not] at notApplied
        rw [(notApplied (sameAsRow.trans isLast.symm)).2]
        rfl
    · rw [List.find?_cons_of_neg (by simpa using isLast)] at settled
      rw [if_neg fun applies => isLast (applies.1.symm.trans sameAsRow)]
      exact ih settled

/-! ## Snapshots -/

theorem exists_of_forall₂ {relation : Recipient → Recipient → Prop}
    (related : List.Forall₂ relation rows others) :
    ∀ other ∈ others, ∃ row ∈ rows, relation row other := by
  induction related with
  | nil => exact fun _ isOther => nomatch isOther
  | cons head _ ih =>
    intro other isOther
    rcases mem_cons.mp isOther with rfl | isLater
    · exact ⟨_, .head _, head⟩
    · obtain ⟨row, isRow, holds⟩ := ih other isLater
      exact ⟨row, .tail _ isRow, holds⟩

variable {record : CorrectionRecord}

theorem Snapshot.self
    (closed : record.status = .closed → ∀ row ∈ record.recipients, row.noticeState.settled = true) :
    Snapshot record record :=
  ⟨forall₂_same.mpr fun _ _ => ⟨rfl, id⟩, closed⟩

/-- What was settled stays so while the record moves on. -/
theorem Snapshot.progress {store after : CorrectionRecord} (snapshot : Snapshot record store)
    (progress : store.Progress after) : Snapshot record after := by
  refine ⟨forall₂_comp ?_ snapshot.settled progress.rows, snapshot.closed⟩
  rintro row stored later ⟨sameAgent, settled⟩ kept
  exact ⟨kept.agent.trans sameAgent, fun isSettled => kept.settled (settled isSettled)⟩

variable {write : PendingStates}

/-- A write that follows from a closed record closes it. -/
theorem PendingStates.FollowsFrom.closed (follows : write.FollowsFrom record)
    (isClosed : record.status = .closed)
    (settled : ∀ row ∈ record.recipients, row.noticeState.settled = true) :
    write.updates = [] ∧ write.status = .closed := by
  have noUpdates : write.updates = [] := by
    refine eq_nil_iff_forall_not_mem.mpr fun update isUpdate => ?_
    obtain ⟨row, isRow, updates⟩ := follows.updates update isUpdate
    cases updates.unsettled.symm.trans (settled row isRow)
  refine ⟨noUpdates, ?_⟩
  rw [follows.status, noUpdates, map_mergedRow_nil, isClosed, statusAfter_of_settled settled]

/-- A write that closes has every notice settled. -/
theorem PendingStates.FollowsFrom.settled {store : CorrectionRecord}
    (follows : write.FollowsFrom record) (snapshot : Snapshot record store)
    (closes : write.status = .closed) :
    ∀ row ∈ record.recipients, (mergedRow write.updates row).noticeState.settled = true := by
  rcases settled_of_statusAfter (follows.status.symm.trans closes) with isClosed | settled
  · intro row isRow
    rw [(follows.closed isClosed (snapshot.closed isClosed)).1]
    exact snapshot.closed isClosed row isRow
  · exact fun row isRow => settled _ (mem_map_of_mem isRow)

/-! ## Writes of states -/

variable {store : CorrectionRecord}

/-- The record after a write. -/
abbrev written (write : PendingStates) (store : CorrectionRecord) : CorrectionRecord :=
  correctionApplyStates write.updates (some write.status) write.busCheckedAt store

theorem recipients_written :
    (written write store).recipients = store.recipients.map (rowAfter write.updates) := by
  unfold written correctionApplyStates
  dsimp only
  split <;> rfl

theorem status_written : (written write store).status =
    if store.status = .preview then .preview else write.status := by
  unfold written correctionApplyStates
  by_cases isPreview : store.status = .preview
  · rw [if_pos ⟨rfl, isPreview⟩, if_pos isPreview, isPreview]
  · rw [if_neg fun both => isPreview both.2, if_neg isPreview]
    rfl

/-- A write that meets the notices that it was computed from moves each of them on. -/
theorem kept_rowAfter (follows : write.FollowsFrom record) (meets : write.Meets record store) :
    ∀ stored ∈ store.recipients, stored.Kept (rowAfter write.updates stored) := by
  intro stored isStored
  rcases rowAfter_eq_or_mem write.updates stored with same | ⟨update, isUpdate, sameAgent, isAfter⟩
  · rw [same]
    exact Recipient.Kept.refl stored
  · obtain ⟨row, isRow, updates⟩ := follows.updates update isUpdate
    have sameState := meets.rows row isRow stored isStored
      (sameAgent.symm.trans updates.agent) ⟨update, isUpdate, updates.agent⟩
    have unsettled : stored.noticeState.settled = false := sameState ▸ updates.unsettled
    rw [isAfter]
    refine ⟨sameAgent, fun isConfirmed => ?_, fun isReached => ?_, fun isSettled => ?_⟩
    · rw [isConfirmed] at unsettled
      cases unsettled
    · exact updates.reached (sameState ▸ isReached)
    · cases unsettled.symm.trans isSettled

theorem progress_written (snapshot : Snapshot record store) (follows : write.FollowsFrom record)
    (meets : write.Meets record store) :
    store.Progress (written write store) := by
  refine ⟨?_, fun isClosed => ?_⟩
  · rw [recipients_written]
    exact forall₂_map (kept_rowAfter follows meets)
  · rw [status_written, isClosed]
    rcases meets.status isClosed with wasClosed | closes
    · exact (follows.closed wasClosed (snapshot.closed wasClosed)).2
    · exact closes

/-- The record that a write returns. -/
theorem snapshot_written (snapshot : Snapshot record store) (follows : write.FollowsFrom record) :
    Snapshot (written write store) (written write store) := by
  refine Snapshot.self fun isClosed => ?_
  rw [status_written] at isClosed
  split at isClosed
  · cases isClosed
  · intro row isRow
    rw [recipients_written] at isRow
    obtain ⟨stored, isStored, rfl⟩ := mem_map.mp isRow
    obtain ⟨read, isRead, sameAgent, kept⟩ := exists_of_forall₂ snapshot.settled stored isStored
    exact settled_rowAfter sameAgent kept (follows.settled snapshot isClosed read isRead)

/-! ## States -/

variable {state : NoticeState}

theorem unsettled_of_isOpen (isOpen : state.isOpen = true) : state.settled = false := by
  cases state with
  | sent | delivered | late => rfl
  | _ => cases isOpen

/-- An open notice that the agent has had is delivered or late. -/
theorem late_of_isOpen (isOpen : state.isOpen = true) (isReached : state.reached = true)
    (notDelivered : state ≠ .delivered) : state = .late := by
  cases state with
  | late => rfl
  | delivered => exact absurd rfl notDelivered
  | sent => cases isReached
  | _ => cases isOpen

variable {outcome : String}

theorem outcomeOf_eq_sent (isSent : outcomeOf outcome = some .sent) : outcome = "sent" := by
  unfold outcomeOf at isSent
  split at isSent <;> cases isSent
  rfl

theorem reached_of_outcomeOf (isState : outcomeOf outcome = some state) (notSent : state ≠ .sent) :
    state.reached = true := by
  unfold outcomeOf at isState
  split at isState <;> cases isState
  · exact absurd rfl notSent
  all_goals rfl

/-! ## The phases of a thread -/

section Phases

variable (snapshot : Snapshot record store)

include snapshot

theorem knows_applying {updates : List Recipient}
    (areUpdates : ∀ update ∈ updates, ∃ row ∈ record.recipients, row.Updates update)
    (busCheckedAt : Option Time) (next : Continuation) :
    (applying record updates busCheckedAt next).Knows store :=
  ⟨snapshot, areUpdates, rfl⟩

theorem knows_closeIfSettled : (closeIfSettled record).Knows store := by
  unfold closeIfSettled
  split
  next closes =>
    refine ⟨snapshot, fun _ isUpdate => (nomatch isUpdate), ?_⟩
    rw [map_mergedRow_nil]
    exact closes.symm
  · trivial

theorem knows_afterSend (isRefresh : Bool) : (afterSend isRefresh record).Knows store := by
  unfold afterSend
  split
  · exact snapshot
  · trivial

theorem knows_afterApply (next : Continuation) : (afterApply record next).Knows store := by
  fun_cases afterApply record next
  · trivial
  · exact knows_afterSend snapshot _
  · exact knows_afterSend snapshot _
  · exact snapshot

omit snapshot in
/-- A send updates notices that wait on the bus. -/
theorem updates_sendUpdate (waits : row.waitsOnBus = true) (now : Time) (reply : BusReply) :
    row.Updates (sendUpdate now reply row) := by
  rw [Recipient.waitsOnBus, Bool.and_eq_true, decide_eq_true_eq] at waits
  refine ⟨?_, by rw [waits.1]; rfl, fun isReached => ?_⟩
  · fun_cases sendUpdate now reply row <;> rfl
  · rw [waits.1] at isReached
    cases isReached

theorem knows_sendRound (busConfigured isRefresh : Bool) (round : Nat) (waitedUntil : Time)
    (answer : Answer) :
    (sendRound busConfigured isRefresh round waitedUntil record answer).Knows store := by
  unfold sendRound
  split
  · dsimp only
    split
    · exact knows_afterSend snapshot isRefresh
    · refine knows_applying snapshot ?_ _ _
      intro update isUpdate
      obtain ⟨call, isCall, rfl⟩ := mem_map.mp isUpdate
      obtain ⟨⟨row, index⟩, isEntry, rfl⟩ := mem_map.mp isCall
      have isDue := fst_mem_of_mem_zipIdx isEntry
      rw [mem_filter, Bool.and_eq_true] at isDue
      exact ⟨row, isDue.1, updates_sendUpdate isDue.2.1 _ _⟩
  · dsimp only
    split
    · exact knows_afterSend snapshot isRefresh
    · refine knows_applying snapshot ?_ _ _
      intro update isUpdate
      obtain ⟨row, isRow, rfl⟩ := mem_map.mp isUpdate
      rw [mem_filter] at isRow
      have waits := isRow.2
      rw [Recipient.waitsOnBus, Bool.and_eq_true, decide_eq_true_eq] at waits
      refine ⟨row, isRow.1, rfl, by rw [waits.1]; rfl, fun isReached => isReached⟩

omit snapshot in
/-- A status read updates notices that are open, and takes back only late ones. -/
theorem updates_refreshUpdate {update : Recipient} {seen : String → Option BusOutcome}
    (notBack : row.noticeState = .late → ∀ found ∈ seen row.agentId, found.outcome ≠ "sent")
    (isUpdate : refreshUpdate seen row = some update) : row.Updates update := by
  unfold refreshUpdate at isUpdate
  split at isUpdate
  next isOpen =>
    obtain ⟨found, isFound, isUpdate⟩ := Option.bind_eq_some_iff.mp isUpdate
    obtain ⟨outcome, isOutcome, isUpdate⟩ := Option.bind_eq_some_iff.mp isUpdate
    split at isUpdate
    · cases isUpdate
    next moves =>
      cases isUpdate
      refine ⟨rfl, unsettled_of_isOpen isOpen.2, fun isReached => ?_⟩
      refine reached_of_outcomeOf isOutcome fun isSent => ?_
      subst isSent
      have wasLate : row.noticeState = .late :=
        late_of_isOpen isOpen.2 isReached fun isDelivered => moves (.inr ⟨rfl, isDelivered⟩)
      exact notBack wasLate found isFound (outcomeOf_eq_sent isOutcome)
  · cases isUpdate

theorem knows_checkBus {answer : Answer} (notBack : answer.status.NotBack record) :
    (checkBus record answer).Knows store := by
  fun_cases checkBus record answer
  · exact knows_closeIfSettled snapshot
  · exact knows_closeIfSettled snapshot
  · trivial
  next isAnswer =>
    rw [isAnswer] at notBack
    refine knows_applying snapshot ?_ _ _
    intro update isUpdate
    obtain ⟨row, isRow, isUpdated⟩ := mem_filterMap.mp isUpdate
    exact ⟨row, isRow, updates_refreshUpdate (notBack row isRow) isUpdated⟩

end Phases

/-- A thread goes on from a record only while it is being sent. -/
theorem knows_afterRead (busConfigured isRefresh : Bool) (record : CorrectionRecord) (now : Time) :
    (afterRead busConfigured isRefresh record now).Knows record := by
  have snapshot (notClosed : record.status ≠ .closed) : Snapshot record record :=
    Snapshot.self fun isClosed => absurd isClosed notClosed
  unfold afterRead
  split
  · split
    · trivial
    next isSent =>
      have here := snapshot fun isClosed => isSent (by rw [isClosed]; decide)
      split
      · exact knows_closeIfSettled here
      · split <;> exact here
  · split
    next isSending => exact snapshot (by rw [isSending]; decide)
    · trivial

/-! ## Runs -/

section Runs

variable {busConfigured : Bool} {world : Pool CorrectionRecord Phase} {pid : Nat} {answer : Answer}
  {phase next : Phase} {start : CorrectionRecord}

/-- A step moves the record on, and leaves its thread with what it knows. -/
theorem moves_of_act (sound : world.Sound start.Progress Phase.Knows)
    (unmoved : Unmoved world (.advance pid answer)) (isThread : world.threads pid = some phase)
    (acted : phase.act busConfigured world.store answer = some (store, next)) :
    world.store.Progress store ∧ next.Knows store := by
  have knows := sound.threads pid phase isThread
  have meets := unmoved phase isThread
  unfold Phase.act at acted
  split at acted <;> cases acted
  · exact ⟨progress_correctionBeginSend .., knows_afterRead ..⟩
  · exact ⟨.refl _, knows_afterRead ..⟩
  · exact ⟨.refl _, knows_sendRound knows ..⟩
  · exact ⟨.refl _, knows_checkBus knows meets⟩
  · obtain ⟨snapshot, follows⟩ := knows
    exact ⟨progress_written snapshot follows meets,
      knows_afterApply (snapshot_written snapshot follows) _⟩
  · exact ⟨progress_correctionConfirm .., trivial⟩
  · exact ⟨progress_correctionNoticesDelivered .., trivial⟩

/-- What a thread knows survives the steps of the others. -/
theorem Phase.Knows.progress (knows : phase.Knows world.store)
    (progress : world.store.Progress store) : phase.Knows store := by
  cases phase with
  | sending | checking => exact Snapshot.progress knows progress
  | applying => exact ⟨knows.1.progress progress, knows.2⟩
  | _ => trivial

/-- Writes that meet what they were computed from do not interfere. -/
theorem interferenceFree :
    (correctionSystem busConfigured).InterferenceFree Unmoved start.Progress Phase.Knows where
  start request _ _ := by
    cases request <;> trivial
  own world pid answer phase store next sound unmoved isThread acted := by
    obtain ⟨progress, knows⟩ := moves_of_act sound unmoved isThread acted
    exact ⟨sound.store.trans progress, knows⟩
  others world pid answer phase store next sound unmoved isThread acted other bystander _
      isBystander :=
    (sound.threads other bystander isBystander).progress
      (moves_of_act sound unmoved isThread acted).1

/-- In every run in which writes of states meet what they were computed from, each record
keeps what the earlier ones have. -/
theorem notices_move_forward (busConfigured : Bool) (record : CorrectionRecord)
    (before after : List (ThreadEvent Request Answer))
    (unmoved : GuardedRun (correctionSystem busConfigured).step Unmoved ⟨record, fun _ => none⟩
      (before ++ after))
    (world later : Pool CorrectionRecord Phase)
    (ran : run (correctionSystem busConfigured).step ⟨record, fun _ => none⟩ before = some world)
    (ranOn : run (correctionSystem busConfigured).step world after = some later) :
    world.store.Forward later.store := by
  have sound := invariant_of_guardedRun interferenceFree.preserved
    (.idle (.refl record)) (guardedRun_of_append_left unmoved) ran
  have fromHere : world.Sound world.store.Progress Phase.Knows := ⟨.refl _, sound.threads⟩
  have soundLater := invariant_of_guardedRun interferenceFree.preserved
    fromHere (guardedRun_of_append unmoved ran) ranOn
  exact soundLater.store.forward

end Runs

/-! ## Samples -/

/-- The bus knows every agent by one outcome. -/
def Answer.seen (outcome : String) (now : Time) : Answer where
  now := now
  status := .answered fun _ => some { outcome := outcome }

/-- The bus accepts every notice. -/
def Answer.accepted : Answer where
  replies _ := .answered none fun _ => some { status := "accepted" }

/-- A correction with a notice for one agent. -/
def oneNotice (status : CorrectionStatus) (state : NoticeState) (channel : Option Channel) :
    CorrectionRecord where
  status := status
  recipients := [{ agentId := "a", noticeState := state, channel := channel }]

/-- A send, the recall that shows its notice, and the confirmation, one after the other, move
the notice on. -/
theorem notices_move_forward_confirmed :
    ((run (correctionSystem true).step ⟨oneNotice .preview .pending none, fun _ => none⟩
      [.start 0 (.send "u"), .advance 0 {}, .advance 0 .accepted, .advance 0 {},
        .start 1 (.recall "a"), .advance 1 {}]).any fun world =>
      world.store.recipients.map Recipient.noticeState = [.delivered]) = true ∧
    ∀ world later, run (correctionSystem true).step
        ⟨oneNotice .preview .pending none, fun _ => none⟩
        [.start 0 (.send "u"), .advance 0 {}, .advance 0 .accepted, .advance 0 {},
          .start 1 (.recall "a"), .advance 1 {}] = some world →
      run (correctionSystem true).step world
          [.start 2 (.confirm "a"), .advance 2 {}, .start 3 .refresh, .advance 3 {}, .advance 3 {},
            .advance 3 {}] = some later →
        world.store.Forward later.store :=
  ⟨by decide +kernel, notices_move_forward true _ _ _ (by decide +kernel)⟩

/-- The first events lead to a state from which the others move a notice back. -/
def MovesBack (record : CorrectionRecord)
    (before after : List (ThreadEvent Request Answer)) : Prop :=
  ∃ world, run (correctionSystem true).step ⟨record, fun _ => none⟩ before = some world ∧
    ∃ later, run (correctionSystem true).step world after = some later ∧
      ¬ world.store.Forward later.store

/-- A confirmation and its time, a delivery and a closed correction are each taken back by a
write of states that was computed before, and a delivery also by two status reads in turn. -/
theorem stale_writes_move_back :
    MovesBack (oneNotice .sent .sent (some .bus))
        [.start 0 .refresh, .advance 0 {}, .advance 0 (.seen "confirmed" 0),
          .start 1 (.confirm "a"), .advance 1 { now := 5 }] [.advance 0 {}] ∧
      MovesBack (oneNotice .sending .pending none)
        [.start 0 .retry, .advance 0 {}, .advance 0 .accepted,
          .start 1 (.recall "a"), .advance 1 {}] [.advance 0 {}] ∧
      MovesBack (oneNotice .sent .sent (some .bus))
        [.start 0 .refresh, .advance 0 {}, .advance 0 (.seen "sent" 0), .start 1 .refresh,
          .advance 1 {}, .advance 1 (.seen "confirmed" 0), .advance 1 {}] [.advance 0 {}] ∧
      MovesBack (oneNotice .sent .delivered (some .bus)) []
        [.start 0 .refresh, .advance 0 {}, .advance 0 (.seen "late" 0), .advance 0 {},
          .start 1 .refresh, .advance 1 {}, .advance 1 (.seen "sent" 30000000),
          .advance 1 {}] := by
  unfold MovesBack
  decide +kernel

end Caura.Correction
