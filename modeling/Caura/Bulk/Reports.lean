import Caura.Bulk.Create
import Caura.Transition.Core

/-!
# What a bulk write reports is stored

Over every run of bulk calls and deletions in one tenant and fleet: a call answers each
item once and in order, its counters add up, and an item reported as created or as a
duplicate of its own attempt is stored, live, for the calling agent and with the content
the call gave.  The last holds exactly when no pending item of the run finds its attempt
key taken by a live row of another agent: the lookup of stored contents is confined to
the calling agent, while the attempt keys are shared by the agents of the fleet.
-/

namespace Caura.Bulk

open Caura.Relation Caura.Transition List Table
open Caura.Idempotency (HttpError)
open BulkCall (Prepared)

variable {hashing : Hashing} {store after : Store hashing} {call : BulkCall}
  {entry : Prepared × Nat} {storageResults : List Store.StorageResult} {result : BulkItemResult}

/-! ## Entries -/

theorem map_snd_entries (call : BulkCall) :
    call.entries.map Prod.snd = List.range call.items.length := by
  rw [BulkCall.entries, zipIdx_map_snd, length_map, range_eq_range']

/-- An entry carries the prepared content of the item at its position. -/
theorem content_of_mem_entries (entryMem : entry ∈ call.entries) :
    (call.items[entry.2]?).map (fun item => (call.prepare item).content) =
      some entry.1.content := by
  have found := mem_zipIdx_iff_getElem?.mp entryMem
  rw [List.getElem?_map] at found
  rw [← Function.comp_def Prepared.content, ← Option.map_map, found]
  rfl

/-! ## Answers by position and status -/

/-- An answer given before the insert reports no created row, and a duplicate attempt only with
the agent's row that has the content. -/
theorem answer_of_classify (answered : classify store call entry = some result) :
    result.index = entry.2 ∧ result.status ≠ .created ∧ (result.status = .duplicateAttempt →
      ∃ found, existing store call entry.1 = some found ∧ result.id = some found.id) := by
  revert answered
  fun_cases classify store call entry <;> intro answered <;> cases answered
  · simp
  next found isFound _ => exact ⟨rfl, by simp, fun _ => ⟨found, isFound, rfl⟩⟩
  · simp
  · simp

/-- An item is pending when it passes its checks and is the first to write its content,
which the agent has not stored. -/
theorem classify_eq_none_iff : classify store call entry = none ↔
      entry.1.error = none ∧ existing store call entry.1 = none ∧
        (firstWriter store call).lookup (hashing.contentHash entry.1.content) = some entry.2 := by
  unfold classify
  cases entry.1.error with
  | some error => simp
  | none =>
    cases existing store call entry.1 with
    | some found =>
      dsimp only
      split <;> simp
    | none => simp

theorem settle_index : (settle hashing call storageResults entry).index = entry.2 := by
  unfold settle
  dsimp only
  split <;> rfl

theorem settle_status : (settle hashing call storageResults entry).status = .created ∨
      (settle hashing call storageResults entry).status = .duplicateAttempt ∨
      (settle hashing call storageResults entry).status = .error := by
  unfold settle
  dsimp only
  split <;> simp

theorem settle_needsCanonical (hashing : Hashing) (call : BulkCall)
    (storageResults : List Store.StorageResult) (entry : Prepared × Nat) :
    (settle hashing call storageResults entry).needsCanonical = false := by
  unfold settle
  dsimp only
  split <;> rfl

theorem firstResult_index : (firstResult store call storageResults entry).index = entry.2 := by
  unfold firstResult
  cases answered : classify store call entry with
  | none => exact settle_index
  | some result => exact (answer_of_classify answered).1

theorem backfill_index : (backfill store call storageResults entry).index = entry.2 := by
  unfold backfill
  dsimp only
  split
  · split <;> exact firstResult_index
  · exact firstResult_index

/-- Filling in ids neither makes nor changes an answer that reports a stored row. -/
theorem backfill_eq_firstResult
    (reported : (backfill store call storageResults entry).status = .created ∨
      (backfill store call storageResults entry).status = .duplicateAttempt) :
    backfill store call storageResults entry = firstResult store call storageResults entry := by
  unfold backfill at reported ⊢
  dsimp only at reported ⊢
  split
  next needs =>
    rw [if_pos needs] at reported
    split at reported <;> simp at reported
  · rfl

theorem backfill_eq_settle (isPending : classify store call entry = none) :
    backfill store call storageResults entry = settle hashing call storageResults entry := by
  have first : firstResult store call storageResults entry =
      settle hashing call storageResults entry := by
    rw [firstResult, isPending, Option.getD_none]
  unfold backfill
  dsimp only
  rw [first, settle_needsCanonical]
  rfl

/-! ## The counters -/

section Counters

variable {α β : Type*}

theorem length_filterMap_add_length_filter (answer : α → Option β) (items : List α) :
    (items.filterMap answer).length +
      (items.filter fun item => (answer item).isNone).length = items.length := by
  induction items with
  | nil => rfl
  | cons item items ih => grind

variable (store call storageResults)

/-- Answers that are created, duplicate or in error are counted once each. -/
theorem countP_status {results : List BulkItemResult}
    (statuses : ∀ result ∈ results, result.status = .created ∨
      result.status = .duplicateAttempt ∨ result.status = .error) :
    results.countP (fun result => result.status = .created) +
        results.countP (fun result => result.status = .duplicateAttempt) +
        results.countP (fun result => result.status = .error) = results.length := by
  induction results with
  | nil => rfl
  | cons result results ih =>
    have rest := ih fun other otherMem => statuses other (.tail result otherMem)
    rcases statuses result (.head _) with status | status | status
    all_goals
      simp [status]
      omega

/-- Only an answer given before the insert is downgraded. -/
theorem downgraded_le : call.entries.countP (isDowngraded store call storageResults) ≤
    (call.entries.filterMap (classify store call)).countP fun result => result.status ≠ .error := by
  rw [countP_filterMap]
  apply countP_mono_left
  intro entry _ downgraded
  unfold isDowngraded firstResult at downgraded
  cases answered : classify store call entry with
  | none =>
    rw [answered, Option.getD_none, settle_needsCanonical] at downgraded
    simp at downgraded
  | some result =>
    rw [answered] at downgraded
    simp [BulkItemResult.needsCanonical] at downgraded
    simp [downgraded]

/-- The counters of a response add up to the items of the call. -/
theorem respond_counted : (respond store call storageResults).created +
        (respond store call storageResults).duplicates +
        (respond store call storageResults).errors = call.items.length := by
  have classified := length_eq_countP_add_countP
    (fun result : BulkItemResult => decide (result.status = .error))
    (l := call.entries.filterMap (classify store call))
  have statuses : ∀ result ∈ (pending store call).map (settle hashing call storageResults),
      result.status = .created ∨ result.status = .duplicateAttempt ∨ result.status = .error := by
    intro result resultMem
    obtain ⟨entry, _, rfl⟩ := mem_map.mp resultMem
    exact settle_status
  have settled := countP_status statuses
  have answered := length_filterMap_add_length_filter (classify store call) call.entries
  have entries : call.entries.length = call.items.length := by
    rw [BulkCall.entries, length_zipIdx, length_map]
  have downgraded := downgraded_le store call storageResults
  rw [length_map] at settled
  unfold respond
  simp only [ne_eq, decide_eq_true_eq] at classified downgraded ⊢
  unfold pending at settled ⊢
  omega

end Counters

/-! ## One call -/

/-- The contents a call meets: those of the stored rows and of its own items. -/
def contents (store : Store hashing) (call : BulkCall) : List (List Char) :=
  store.memories.rows.map Row.content ++ call.entries.map fun entry => entry.1.content

/-- Distinct contents that the call meets have distinct short hashes. -/
def DistinctHashes (store : Store hashing) (call : BulkCall) : Prop :=
  ∀ first ∈ contents store call, ∀ second ∈ contents store call,
    hashing.shortHash first = hashing.shortHash second → first = second

instance (store : Store hashing) (call : BulkCall) : Decidable (DistinctHashes store call) := by
  unfold DistinctHashes
  infer_instance

/-- No pending item finds its attempt key taken by a live row of another agent. -/
def OwnKeys (store : Store hashing) (call : BulkCall) : Prop :=
  ∀ entry ∈ pending store call, ∀ row ∈ store.memories,
    row.attemptKey = some (call.requestId hashing entry.1) → row.agentId = call.agentId

instance (store : Store hashing) (call : BulkCall) : Decidable (OwnKeys store call) := by
  unfold OwnKeys
  infer_instance

/-- A response accounts for the call: one answer per item, in order, counters that add
up, and a live row of the agent with the item's content behind each answer that reports
one. -/
structure Accounts (after : Store hashing) (call : BulkCall)
    (response : BulkMemoryResponse) : Prop where
  inOrder : response.results.map BulkItemResult.index = List.range call.items.length
  counted : response.created + response.duplicates + response.errors = call.items.length
  stored : ∀ result ∈ response.results,
    result.status = .created ∨ result.status = .duplicateAttempt →
      ∃ row ∈ after.memories, result.id = some row.id ∧ row.deleted = false ∧
        row.agentId = call.agentId ∧
        (call.items[result.index]?).map (fun item => (call.prepare item).content) =
          some row.content

section Call

theorem mem_pending_iff : entry ∈ pending store call ↔
      entry ∈ call.entries ∧ classify store call entry = none := by
  rw [pending, mem_filter, Option.isNone_iff_eq_none]

/-- The agent has no live row with the content of a pending item. -/
theorem holder_eq_none_of_pending (isPending : entry ∈ pending store call) :
    store.memories.holder Row.contentKey
      (call.agentId, hashing.contentHash entry.1.content) = none := by
  have absent := (classify_eq_none_iff.mp (mem_pending_iff.mp isPending).2).2.1
  exact Option.map_eq_none_iff.mp absent

/-- Pending items at different positions have different contents. -/
theorem contentHash_ne_of_pending {first second : Prepared × Nat}
    (firstPending : first ∈ pending store call) (secondPending : second ∈ pending store call)
    (apart : first.2 ≠ second.2) :
    hashing.contentHash first.1.content ≠ hashing.contentHash second.1.content := by
  intro same
  have firstWrites := (classify_eq_none_iff.mp (mem_pending_iff.mp firstPending).2).2.2
  have secondWrites := (classify_eq_none_iff.mp (mem_pending_iff.mp secondPending).2).2.2
  rw [same, secondWrites] at firstWrites
  exact apart (Option.some.inj firstWrites).symm

theorem pairwise_pending : (pending store call).Pairwise fun first second =>
      hashing.contentHash first.1.content ≠ hashing.contentHash second.1.content := by
  have positions : call.entries.Pairwise fun first second => first.2 ≠ second.2 := by
    rw [← pairwise_map, map_snd_entries]
    exact nodup_range
  have pendingPositions := positions.filter fun entry => (classify store call entry).isNone
  exact List.Pairwise.imp_of_mem contentHash_ne_of_pending pendingPositions

theorem content_mem_contents_of_entry (entryMem : entry ∈ call.entries) :
    entry.1.content ∈ contents store call :=
  mem_append_right _ (mem_map_of_mem entryMem)

variable {row : Row hashing}

theorem content_mem_contents_of_row (rowMem : row ∈ store.memories) :
    row.content ∈ contents store call :=
  mem_append_left _ (mem_map_of_mem rowMem)

variable (distinct : DistinctHashes store call)

include distinct

/-- An attempt key that ends in the short hash of an item is that of its content. -/
theorem content_eq_of_attemptKey (entryMem : entry ∈ call.entries) (rowMem : row ∈ store.memories)
    (rowKey : row.attemptKey = some (call.requestId hashing entry.1)) :
    row.content = entry.1.content := by
  have stored := (Row.attemptKey_eq_some_iff.mp rowKey).2
  obtain ⟨attempt, sameKey⟩ := row.keyed _ stored
  apply distinct _ (content_mem_contents_of_row rowMem) _ (content_mem_contents_of_entry entryMem)
  exact (Hashing.shortHash_eq_of_itemRequestId_eq sameKey).symm

/-- A content hash of a stored row determines its content. -/
theorem content_eq_of_contentHash (entryMem : entry ∈ call.entries) (rowMem : row ∈ store.memories)
    (sameHash : row.contentHash = hashing.contentHash entry.1.content) :
    row.content = entry.1.content := by
  apply distinct _ (content_mem_contents_of_row rowMem) _ (content_mem_contents_of_entry entryMem)
  rw [Hashing.shortHash, Hashing.shortHash, ← row.hashed, sameHash]

theorem pairwise_requestId_pending : (pending store call).Pairwise fun first second =>
    call.requestId hashing first.1 ≠ call.requestId hashing second.1 := by
  refine List.Pairwise.imp_of_mem ?_ pairwise_pending
  intro first second firstPending secondPending apart sameKey
  have sameContent := distinct _
    (content_mem_contents_of_entry (mem_pending_iff.mp firstPending).1) _
    (content_mem_contents_of_entry (mem_pending_iff.mp secondPending).1)
    (Hashing.shortHash_eq_of_itemRequestId_eq sameKey)
  exact apart (congrArg hashing.contentHash sameContent)

/-- The insert of a call succeeds, and the call answers from what storage reports. -/
theorem createMemoriesBulk_eq_respond (unraised : call.raises = none) :
    ∃ after returned, store.Inserted (drafts store call) after returned ∧
      createMemoriesBulk store call = (after, .ok (respond store call
        ((drafts store call).map (after.report returned)))) := by
  have freeContents : ∀ draft ∈ drafts store call, store.memories.holder Row.contentKey
      (draft.agentId, draft.contentHash) = none := by
    intro draft draftMem
    obtain ⟨entry, isPending, rfl⟩ := mem_map.mp draftMem
    exact holder_eq_none_of_pending isPending
  have contentsApart : (drafts store call).Pairwise fun first second =>
      first.contentHash ≠ second.contentHash :=
    pairwise_map.mpr pairwise_pending
  have keysApart : (drafts store call).Pairwise fun first second =>
      first.clientRequestId ≠ second.clientRequestId :=
    pairwise_map.mpr (pairwise_requestId_pending distinct)
  obtain ⟨after, returned, inserts, inserted⟩ :=
    Store.insertRows_inserted freeContents contentsApart keysApart
  refine ⟨after, returned, inserted, ?_⟩
  rw [createMemoriesBulk, unraised, Store.memoryAddAll, inserts]

/-- Storage's report for a pending item is found under its attempt key. -/
theorem byRequestId_eq_report (isPending : entry ∈ pending store call) (after : Store hashing)
    (returned : List (List Char × Nat)) :
    byRequestId ((drafts store call).map (after.report returned)) (call.requestId hashing entry.1) =
        some (after.report returned (call.draft hashing entry.1)) := by
  have keys : ((pending store call).map fun entry => call.requestId hashing entry.1).Nodup :=
    pairwise_map.mpr (pairwise_requestId_pending distinct)
  rw [byRequestId, drafts, map_map]
  cases found : List.find? _ _ with
  | none =>
    have absent := List.find?_eq_none.mp found (after.report returned (call.draft hashing entry.1))
      (mem_reverse.mpr (mem_map_of_mem isPending))
    rw [Store.report_clientRequestId] at absent
    exact absurd (decide_eq_true rfl) absent
  | some result =>
    have resultKey : result.clientRequestId = call.requestId hashing entry.1 := by
      simpa using List.find?_some found
    obtain ⟨other, otherPending, rfl⟩ :=
      mem_map.mp (mem_reverse.mp (mem_of_find?_eq_some found))
    rw [Function.comp_apply, Store.report_clientRequestId] at resultKey
    rw [inj_on_of_nodup_map keys otherPending isPending resultKey]
    rfl

variable {returned : List (List Char × Nat)}
  (inserted : store.Inserted (drafts store call) after returned)

include inserted

section Settled

variable (isPending : entry ∈ pending store call)

include isPending

/-- A pending item with a free key is created. -/
theorem settle_of_free
    (free : store.memories.holder Row.attemptKey (call.requestId hashing entry.1) = none) :
    ∃ id, (call.draft hashing entry.1).row id ∈ after.memories ∧
      settle hashing call ((drafts store call).map (after.report returned)) entry =
          { index := entry.2, clientRequestId := call.requestId hashing entry.1
            status := .created, id := some id } := by
  obtain ⟨id, stored, reported⟩ :=
    inserted.report_eq_of_free (mem_map_of_mem isPending) free
  refine ⟨id, stored, ?_⟩
  rw [settle, byRequestId_eq_report distinct isPending, reported]
  rfl

/-- A pending item with a taken key is answered with the row that has it. -/
theorem settle_of_taken {row : Row hashing}
    (taken : store.memories.holder Row.attemptKey (call.requestId hashing entry.1) = some row) :
    settle hashing call ((drafts store call).map (after.report returned)) entry =
        { index := entry.2, clientRequestId := call.requestId hashing entry.1
          status := .duplicateAttempt, id := some row.id } := by
  have reported := inserted.report_eq_of_taken (mem_map_of_mem isPending) taken
  rw [settle, byRequestId_eq_report distinct isPending, reported]
  rfl

end Settled

/-! ## The answers and the store -/

/-- With its own keys, each answer that reports a row is backed by one. -/
theorem stored_of_ownKeys (own : OwnKeys store call) {entry : Prepared × Nat}
    (entryMem : entry ∈ call.entries) {result : BulkItemResult}
    (answer : firstResult store call ((drafts store call).map (after.report returned)) entry =
      result)
    (reported : result.status = .created ∨ result.status = .duplicateAttempt) :
    ∃ row ∈ after.memories, result.id = some row.id ∧ row.deleted = false ∧
      row.agentId = call.agentId ∧ row.content = entry.1.content := by
  unfold firstResult at answer
  cases answered : classify store call entry with
  | some first =>
    rw [answered] at answer
    subst answer
    obtain ⟨_, notCreated, attempt⟩ := answer_of_classify answered
    obtain ⟨found, isFound, resultId⟩ := attempt (reported.resolve_left notCreated)
    obtain ⟨row, holds, rfl⟩ := Option.map_eq_some_iff.mp isFound
    obtain ⟨rowMem, rowKey⟩ := mem_of_holder holds
    obtain ⟨live, sameAgent, sameHash⟩ := Row.contentKey_eq_some_iff.mp rowKey
    exact ⟨row, inserted.kept row rowMem, resultId, live, sameAgent,
      content_eq_of_contentHash distinct entryMem rowMem sameHash⟩
  | none =>
    have isPending := mem_pending_iff.mpr ⟨entryMem, answered⟩
    rw [answered] at answer
    subst answer
    cases key : store.memories.holder Row.attemptKey (call.requestId hashing entry.1) with
    | none =>
      obtain ⟨id, stored, settled⟩ := settle_of_free distinct inserted isPending key
      rw [settled]
      exact ⟨_, stored, rfl, rfl, rfl, rfl⟩
    | some row =>
      -- An own row with this key has the item's content, so the lookup had found it.
      obtain ⟨rowMem, rowKey⟩ := mem_of_holder key
      have sameContent := content_eq_of_attemptKey distinct entryMem rowMem rowKey
      have rowContent : row.contentKey =
          some (call.agentId, hashing.contentHash entry.1.content) := by
        apply Row.contentKey_eq_some_iff.mpr
        refine ⟨(Row.attemptKey_eq_some_iff.mp rowKey).1, own entry isPending row rowMem rowKey, ?_⟩
        rw [row.hashed, sameContent]
      exact absurd rowContent
        (holder_eq_none_iff.mp (holder_eq_none_of_pending isPending) row rowMem)

/-- With its own keys, the response of a call accounts for it. -/
theorem accounts_of_ownKeys (own : OwnKeys store call) : Accounts after call
      (respond store call ((drafts store call).map (after.report returned))) where
  inOrder := by
    rw [← map_snd_entries, respond, map_map]
    apply map_congr_left
    intro entry _
    exact backfill_index
  counted := respond_counted store call _
  stored := by
    intro result resultMem reported
    obtain ⟨entry, entryMem, rfl⟩ := mem_map.mp resultMem
    have unchanged := backfill_eq_firstResult reported
    obtain ⟨row, rowMem, resultId, live, sameAgent, sameContent⟩ :=
      stored_of_ownKeys distinct inserted own entryMem unchanged.symm reported
    refine ⟨row, rowMem, resultId, live, sameAgent, ?_⟩
    rw [backfill_index, sameContent]
    exact content_of_mem_entries entryMem

/-- If the response accounts for the call, no pending item met a foreign key. -/
theorem ownKeys_of_accounts (accounts : Accounts after call
    (respond store call ((drafts store call).map (after.report returned)))) :
    OwnKeys store call := by
  intro entry isPending row rowMem rowKey
  have taken := store.attemptUnique.holder_eq rowMem rowKey
  obtain ⟨entryMem, unanswered⟩ := mem_pending_iff.mp isPending
  have settled := settle_of_taken distinct inserted isPending taken
  rw [← backfill_eq_settle unanswered] at settled
  obtain ⟨other, otherMem, otherId, _, otherAgent, _⟩ := accounts.stored _
    (mem_map_of_mem entryMem) (.inr (congrArg BulkItemResult.status settled))
  have sameId := (congrArg BulkItemResult.id settled).symm.trans otherId
  have sameRow := eq_of_key_eq (inserted.kept row rowMem) otherMem (Option.some.inj sameId)
  rwa [sameRow]

end Call

/-! ## Runs -/

/-- What happens in the scope: a bulk call, or the deletion of a row. -/
inductive Event
  | bulk (call : BulkCall)
  | delete (id : Nat)

/-- The store after an event. -/
def step (store : Store hashing) : Event → Option (Store hashing)
  | .bulk call => some (createMemoriesBulk store call).1
  | .delete id => some (store.delete id)

/-- The event is no call, or the contents the call meets have distinct short hashes. -/
def Event.DistinctHashes (store : Store hashing) : Event → Prop
  | .bulk call => Bulk.DistinctHashes store call
  | .delete _ => True

instance (store : Store hashing) (event : Event) : Decidable (event.DistinctHashes store) := by
  cases event <;> dsimp only [Event.DistinctHashes] <;> infer_instance

/-- A call that no error ends is answered, and its answer accounts for it. -/
def Event.Faithful (store : Store hashing) : Event → Prop
  | .bulk call =>
    call.raises = none → ∃ response, (createMemoriesBulk store call).2 = .ok response ∧
      Accounts (createMemoriesBulk store call).1 call response
  | .delete _ => True

/-- A call that no error ends meets no attempt key of another agent. -/
def Event.OwnKeys (store : Store hashing) : Event → Prop
  | .bulk call => call.raises = none → Bulk.OwnKeys store call
  | .delete _ => True

instance (store : Store hashing) (event : Event) : Decidable (event.OwnKeys store) := by
  cases event <;> dsimp only [Event.OwnKeys] <;> infer_instance

/-- One event reports what is stored exactly when it meets no foreign attempt key. -/
theorem faithful_iff_ownKeys {store : Store hashing} {event : Event}
    (distinct : event.DistinctHashes store) : event.Faithful store ↔ event.OwnKeys store := by
  cases event with
  | delete id => exact .rfl
  | bulk call =>
    refine forall_congr' fun unraised => ?_
    obtain ⟨after, returned, inserted, answer⟩ :=
      createMemoriesBulk_eq_respond distinct unraised
    rw [answer]
    constructor
    · rintro ⟨response, isResponse, accounts⟩
      cases isResponse
      exact ownKeys_of_accounts distinct inserted accounts
    · intro own
      exact ⟨_, rfl, accounts_of_ownKeys distinct inserted own⟩

/-- Over every run in which distinct contents have distinct short hashes: the calls
report what is stored exactly when none of them meets an attempt key of another agent.
Whatever the attempt keys, no agent has two live rows with one content. -/
theorem bulk_reports_stored_iff (store : Store hashing) (events : List Event)
    (distinct : GuardedRun step (fun store event => event.DistinctHashes store) store events) :
    (GuardedRun step (fun store event => event.Faithful store) store events ↔
      GuardedRun step (fun store event => event.OwnKeys store) store events) ∧
    ∀ final, run step store events = some final →
      ∀ first ∈ final.memories, ∀ second ∈ final.memories,
        first.deleted = false → second.deleted = false → first.agentId = second.agentId →
          first.content = second.content → first = second := by
  constructor
  · exact guardedRun_congr_of_guardedRun (fun _ _ => faithful_iff_ownKeys) distinct
  · intro final _ first firstMem second secondMem firstLive secondLive sameAgent sameContent
    apply final.contentUnique first firstMem second secondMem (first.agentId, first.contentHash)
    · exact Row.contentKey_eq_some_iff.mpr ⟨firstLive, rfl, rfl⟩
    · refine Row.contentKey_eq_some_iff.mpr ⟨secondLive, sameAgent.symm, ?_⟩
      rw [second.hashed, first.hashed, sameContent]

/-! ## Agents that share an attempt id -/

theorem length_padded (content : List Char) :
    ((content ++ List.replicate 64 '0').take 64).length = 64 := by
  rw [length_take, length_append, length_replicate]
  omega

/-- Contents padded to the length of a digest, in place of their digests. -/
def paddedHashing : Hashing where
  contentHash content := (content ++ List.replicate 64 '0').take 64
  length_contentHash := length_padded

/-- No rules and no policy. -/
def noRules : Governance.RuleSet :=
  Governance.RuleSet.withoutPasswords []

/-- One item, written by an agent under the attempt id `r1`. -/
def oneItem (agentId : String) : BulkCall where
  agentId
  bulkAttemptId := ['r', '1']
  items :=
    [{ content := ['r', 'o', 't', 'a', 't', 'e', ' ', 'k', 'e', 'y', 's'], memoryType := none
       weight := none, status := none, unknownFieldError := none, fieldSizeError := none }]
  fromBroker := false
  isSpace c := c = ' '
  ruleSet := noRules
  governancePii := { enabled := false, action := .flag, enabledCategories := none }
  refusedAsPersonal := fun _ => false
  raises := none

/-- Once the row of the first agent is deleted, the second agent's item is stored. -/
theorem bulk_reports_stored_after_delete :
    let events := [.bulk (oneItem "ann"), .delete 0, .bulk (oneItem "bo")]
    GuardedRun step (fun store event => event.DistinctHashes store)
        (Store.empty : Store paddedHashing) events ∧
      GuardedRun step (fun store event => event.Faithful store)
        (Store.empty : Store paddedHashing) events := by
  intro events
  have distinct : GuardedRun step (fun store event => event.DistinctHashes store)
      (Store.empty : Store paddedHashing) events := by
    decide +kernel
  have own : GuardedRun step (fun store event => event.OwnKeys store)
      (Store.empty : Store paddedHashing) events := by
    decide +kernel
  exact ⟨distinct, (bulk_reports_stored_iff Store.empty events distinct).1.mpr own⟩

/-- The second of two agents that use one attempt id for one content is told that its
item was stored by an earlier attempt.  The row it is given is the first agent's, and
none of its own is stored. -/
theorem shared_attempt_reports_foreign_row :
    let before := (createMemoriesBulk (Store.empty : Store paddedHashing) (oneItem "ann")).1
    let events := [.bulk (oneItem "ann"), .bulk (oneItem "bo")]
    (createMemoriesBulk before (oneItem "bo")).2 = .ok
        { created := 0, duplicates := 1, errors := 0
          results :=
            [{ index := 0, status := .duplicateAttempt, id := some 0
               clientRequestId := paddedHashing.itemRequestId ['r', '1']
                 ['r', 'o', 't', 'a', 't', 'e', ' ', 'k', 'e', 'y', 's'] }] } ∧
      (createMemoriesBulk before (oneItem "bo")).1.memories.rows.map
        (fun row => (row.id, row.agentId)) = [(0, "ann")] ∧
      GuardedRun step (fun store event => event.DistinctHashes store)
        (Store.empty : Store paddedHashing) events ∧
      ¬ GuardedRun step (fun store event => event.Faithful store)
        (Store.empty : Store paddedHashing) events := by
  intro before events
  have distinct : GuardedRun step (fun store event => event.DistinctHashes store)
      (Store.empty : Store paddedHashing) events := by
    decide +kernel
  refine ⟨by decide +kernel, by decide +kernel, distinct, fun faithful => ?_⟩
  have own := (faithful_iff_ownKeys (distinct.2 before rfl).1).mp (faithful.2 before rfl).1
  exact absurd own (by decide +kernel)

end Caura.Bulk
