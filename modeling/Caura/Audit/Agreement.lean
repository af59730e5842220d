import Caura.Audit.Verifier
import Caura.Transition.Fallible

/-!
# Writer and verifier agree

After any sequence of calls, whichever of their transactions failed, the chained
rows of every tenant are an intact chain that ends at its head, and no client id
occurs twice.  The chain is intact for the rows as they are read back: the hash
of a pending row is the hash that the verifier computes from the stored columns.
-/

namespace Caura.Audit

open Caura.Value Caura.Chain Caura.Transition List Option AuditStore

variable {platform : Platform} {tenantId : String}

/-! ## Pending rows -/

/-- The chain that pending rows form. -/
def pendingScheme (platform : Platform) : Scheme PendingRow Bytes where
  number row := row.fields.seq
  previous row := some row.prevHash
  digest row := some row.eventHash
  compute row prevHash :=
    some (computeEventHash (canonicalEvent platform row.fields) prevHash)

/-- A resource id and the UUID its column stores have one canonical form. -/
theorem canonicalResourceId_column {resourceId : Option ResourceId}
    {stored : Option Uuid} (inserted : resourceIdColumn platform resourceId = .ok stored) :
    canonicalResourceId platform (stored.map .uuid) = canonicalResourceId platform resourceId := by
  cases resourceId with
  | none =>
    cases inserted
    rfl
  | some id =>
    cases id with
    | uuid id =>
      cases inserted
      rfl
    | text id =>
      unfold resourceIdColumn at inserted
      cases parsed : platform.parseUuid id with
      | none => simp [parsed] at inserted
      | some uuid =>
        have nonempty : id ≠ "" := by
          rintro rfl
          simp [platform.parseUuid_empty] at parsed
        simp only [parsed, Except.ok.injEq] at inserted
        subst inserted
        simp [canonicalResourceId, nonempty, parsed]

/-- The columns a stored row keeps of a pending one. -/
structure StoredAs (platform : Platform) (row : PendingRow) (stored : AuditRow) :
    Prop where
  tenantId : stored.tenantId = row.fields.tenantId
  seq : stored.seq = row.fields.seq
  prevHash : stored.prevHash = some row.prevHash
  eventHash : stored.eventHash = some row.eventHash
  clientEventId : stored.clientEventId = row.clientEventId
  recompute : ∀ prevHash, stored.recompute platform prevHash =
    some (computeEventHash (canonicalEvent platform row.fields) prevHash)

theorem storedAs_of_insert {newId : Int → Uuid} {row : PendingRow} {stored : AuditRow}
    (inserted : row.insert platform newId = .ok stored) :
    StoredAs platform row stored := by
  unfold PendingRow.insert at inserted
  cases column : resourceIdColumn platform row.fields.resourceId with
  | error error =>
    rw [column] at inserted
    cases inserted
  | ok resourceId =>
    rw [column] at inserted
    cases inserted
    refine ⟨rfl, rfl, rfl, rfl, rfl, fun prevHash => ?_⟩
    have sameResource := canonicalResourceId_column column
    unfold AuditRow.recompute
    rw [map_some, canonicalEvent_eq, canonicalEvent_eq, EventFields.value_eq, EventFields.value_eq]
    simp only [AuditRow.fields, sameResource, platform.detailColumn_value, row.hashedAt]

variable {seed last : Bytes} {stored rows : List AuditRow} {first : Int}

/-- Pending rows that are stored stay a chain. -/
theorem intact_of_storedAs {rows : List PendingRow}
    (insertions : List.Forall₂ (StoredAs platform) rows stored)
    (linked : Intact (pendingScheme platform) first seed rows last) :
    Intact (chainScheme platform) first seed stored last := by
  refine Intact.of_forall₂ (insertions.imp ?_) linked
  intro row stored columns
  exact ⟨columns.seq.symm, columns.prevHash.symm, columns.eventHash.symm,
    funext fun prevHash => (columns.recompute prevHash).symm⟩

/-! ## The loop -/

/-- The rows built so far continue the chain from the head, and their client ids
are new. -/
structure DraftInvariant (platform : Platform) (tenantId : String) (head : ChainHead)
    (existing : List String) (draft : Draft) : Prop where
  linked : Intact (pendingScheme platform) (head.lastSeq + 1) head.lastHash draft.rows
    draft.prevHash
  counted : draft.seq = head.lastSeq + draft.rows.length
  seen : draft.rows.filterMap PendingRow.clientEventId = draft.seenInBatch
  fresh : (existing ++ draft.seenInBatch).Nodup
  owned : ∀ row ∈ draft.rows, row.fields.tenantId = tenantId

variable {existing chained seen : List String} {head : ChainHead}

theorem draftInvariant_start (unique : existing.Nodup) :
    DraftInvariant platform tenantId head existing (Draft.start head) where
  linked := rfl
  counted := by simp [Draft.start]
  seen := rfl
  fresh := by simpa [Draft.start] using unique
  owned := by simp [Draft.start]

variable {draft next : Draft} {now : Instant} {event : Event}

/-- A round either drops a duplicate or adds the row of its event. -/
theorem chainEvent_eq_ok
    (chainedEvent : chainEvent platform tenantId now chained draft event = .ok next) :
    next = draft ∨ isDuplicate chained draft.seenInBatch event = false ∧
      ∃ detail, next = draft.push (pendingRow platform tenantId now draft event detail) := by
  revert chainedEvent
  fun_cases chainEvent platform tenantId now chained draft event <;> intro chainedEvent <;>
    cases chainedEvent
  · exact .inl rfl
  next isNew _ _ _ => exact .inr ⟨by simpa using isNew, _, rfl⟩

/-- The client id of an event that is no duplicate is new. -/
theorem nodup_of_not_isDuplicate (fresh : (existing ++ seen).Nodup)
    (complete : ∀ id, event.clientEventId = some id → id ∈ existing → id ∈ chained)
    (isNew : isDuplicate chained seen event = false) :
    (existing ++ (seen ++ event.clientEventId.toList)).Nodup := by
  unfold isDuplicate at isNew
  cases carried : event.clientEventId with
  | none => simpa using fresh
  | some id =>
    simp only [carried, Bool.or_eq_false_iff, contains_eq_mem,
      decide_eq_false_iff_not] at isNew
    have notExisting : id ∉ existing := fun mem => isNew.1 (complete id carried mem)
    rw [toList_some, ← append_assoc, ← concat_eq_append, nodup_concat]
    exact ⟨by simp [notExisting, isNew.2], fresh⟩

theorem DraftInvariant.push {detail : Json}
    (invariant : DraftInvariant platform tenantId head existing draft)
    (fresh : (existing ++ (draft.seenInBatch ++ event.clientEventId.toList)).Nodup) :
    DraftInvariant platform tenantId head existing
      (draft.push (pendingRow platform tenantId now draft event detail)) where
  linked := by
    refine Intact.concat_iff.mpr ⟨draft.prevHash, invariant.linked, ?_, rfl, rfl, rfl⟩
    change some (draft.seq + 1) = _
    rw [invariant.counted]
    congr 1
    omega
  counted := by
    simp only [Draft.push, length_append, length_singleton, invariant.counted]
    omega
  seen := by
    simp only [Draft.push, filterMap_append, invariant.seen]
    cases carried : event.clientEventId <;> simp [pendingRow, carried]
  fresh := fresh
  owned := forall_mem_append.mpr ⟨invariant.owned, forall_mem_singleton.mpr rfl⟩

variable {store : AuditStore} {events : List Event}

/-- The loop over the events of a group builds a chain. -/
theorem draftInvariant_foldlM (unique : (store.clientEventIds tenantId).Nodup)
    (folded : events.foldlM (chainEvent platform tenantId now
      (alreadyChained store tenantId events)) (Draft.start (store.head tenantId)) = .ok draft) :
    DraftInvariant platform tenantId (store.head tenantId)
      (store.clientEventIds tenantId) draft := by
  refine invariant_of_foldlM ?_ (draftInvariant_start unique) folded
  intro draft event next eventMem invariant chainedEvent
  rcases chainEvent_eq_ok chainedEvent with rfl | ⟨isNew, detail, rfl⟩
  · exact invariant
  · refine invariant.push (nodup_of_not_isDuplicate invariant.fresh ?_ isNew)
    -- The lookup of chained ids covers the ids of all events of the group.
    intro id carried idMem
    refine mem_filter.mpr ⟨idMem, ?_⟩
    rw [contains_iff_mem]
    exact mem_filterMap.mpr ⟨event, eventMem, carried⟩

/-! ## The tables -/

/-- The chain of a tenant is intact and ends at its head, and no client id of the
tenant occurs twice. -/
structure TenantInvariant (platform : Platform) (tenantId : String)
    (store : AuditStore) : Prop where
  linked : ChainIntact platform (store.chainRows tenantId)
    (store.head tenantId).lastHash
  counted : (store.head tenantId).lastSeq = (store.chainRows tenantId).length
  unique : (store.clientEventIds tenantId).Nodup

variable {transaction : Transaction} {after : AuditStore}

/-- What a group that succeeds has done. -/
theorem auditChainOneTenant_eq_ok
    (committed : auditChainOneTenant platform transaction store tenantId events = .ok after) :
    ∃ draft rows, events.foldlM (chainEvent platform tenantId transaction.now
        (alreadyChained store tenantId events)) (Draft.start (store.head tenantId)) = .ok draft ∧
      List.Forall₂ (StoredAs platform) draft.rows rows ∧
      after = store.commit tenantId rows ⟨draft.seq, draft.prevHash⟩ := by
  obtain ⟨draft, folded, committed⟩ := bind_eq_ok_iff.mp committed
  obtain ⟨rows, mapped, committed⟩ := bind_eq_ok_iff.mp committed
  split at committed <;> cases committed
  · exact ⟨draft, rows, folded,
      (forall₂_of_mapM mapped).imp fun _ _ inserted => storedAs_of_insert inserted, rfl⟩

theorem clientEventIds_of_storedAs {rows : List PendingRow}
    (insertions : List.Forall₂ (StoredAs platform) rows stored) :
    stored.filterMap AuditRow.clientEventId = rows.filterMap PendingRow.clientEventId := by
  induction insertions with
  | nil => rfl
  | cons columns _ ih => simp only [filterMap_cons, columns.clientEventId, ih]

theorem tenantId_of_storedAs {rows : List PendingRow}
    (insertions : List.Forall₂ (StoredAs platform) rows stored)
    (owned : ∀ row ∈ rows, row.fields.tenantId = tenantId) :
    ∀ row ∈ stored, row.tenantId = tenantId := by
  induction insertions with
  | nil => simp
  | cons columns _ ih =>
    rw [forall_mem_cons] at owned ⊢
    exact ⟨columns.tenantId.trans owned.1, ih owned.2⟩

theorem isSome_seq_of_intact (linked : Intact (chainScheme platform) first seed rows last) :
    ∀ row ∈ rows, row.seq.isSome := by
  intro row rowMem
  obtain ⟨number, rowNumber, _⟩ := Intact.number_ge linked rowMem
  exact isSome_iff_exists.mpr ⟨number, rowNumber⟩

/-- A commit for one tenant leaves the chain of another as it was. -/
theorem TenantInvariant.commit_of_ne {other : String}
    (invariant : TenantInvariant platform other store)
    (owned : ∀ row ∈ rows, row.tenantId = tenantId) (head : ChainHead)
    (differs : other ≠ tenantId) :
    TenantInvariant platform other (store.commit tenantId rows head) := by
  have tenantRows : (store.commit tenantId rows head).tenantRows other =
      store.tenantRows other := tenantRows_commit_of_ne owned differs
  have headEq : (store.commit tenantId rows head).head other = store.head other :=
    head_commit_of_ne differs
  constructor
  · rw [chainRows, tenantRows, headEq]
    exact invariant.linked
  · rw [chainRows, tenantRows, headEq]
    exact invariant.counted
  · rw [clientEventIds, tenantRows]
    exact invariant.unique

/-- A group keeps the chains of all tenants. -/
theorem tenantInvariant_auditChainOneTenant
    (invariant : ∀ tenantId, TenantInvariant platform tenantId store)
    (committed : auditChainOneTenant platform transaction store tenantId events =
      .ok after) (other : String) : TenantInvariant platform other after := by
  obtain ⟨draft, rows, folded, insertions, rfl⟩ := auditChainOneTenant_eq_ok committed
  have own := invariant tenantId
  have drafted := draftInvariant_foldlM own.unique folded
  have linked := intact_of_storedAs insertions drafted.linked
  have owned := tenantId_of_storedAs insertions drafted.owned
  by_cases isOwn : other = tenantId
  · subst isOwn
    have tenantRows : (store.commit other rows ⟨draft.seq, draft.prevHash⟩).tenantRows
        other = store.tenantRows other ++ rows :=
      tenantRows_commit owned
    have chainRows : (store.commit other rows ⟨draft.seq, draft.prevHash⟩).chainRows
        other = store.chainRows other ++ rows := by
      rw [chainRows, tenantRows, filter_append, filter_eq_self.mpr (isSome_seq_of_intact linked)]
      rfl
    constructor
    · rw [chainRows, head_commit]
      refine Intact.append_iff.mpr ⟨_, own.linked, ?_⟩
      rwa [← own.counted, Int.add_comm]
    · rw [chainRows, head_commit, length_append, drafted.counted, own.counted, insertions.length_eq]
      rfl
    · rw [clientEventIds, tenantRows, filterMap_append,
        clientEventIds_of_storedAs insertions, drafted.seen]
      exact drafted.fresh
  · exact (invariant other).commit_of_ne owned _ isOwn

/-! ## Calls -/

/-- A group of a batch keeps the chains of all tenants, whether it fails or not. -/
theorem tenantInvariant_chainGroup {transactions : String → Transaction}
    {state : AuditStore × Option ChainError} {group : String × List Event}
    (invariant : ∀ tenantId, TenantInvariant platform tenantId state.1) :
    ∀ tenantId, TenantInvariant platform tenantId
      (chainGroup platform transactions state group).1 := by
  unfold chainGroup
  split
  · rename_i after committed
    exact tenantInvariant_auditChainOneTenant invariant committed
  · exact invariant

theorem tenantInvariant_apply (call : Call)
    (invariant : ∀ tenantId, TenantInvariant platform tenantId store) :
    ∀ tenantId, TenantInvariant platform tenantId (call.apply platform store) := by
  cases call with
  | auditAdd =>
    unfold Call.apply
    dsimp only
    split
    · rename_i after committed
      exact tenantInvariant_auditChainOneTenant invariant committed
    · exact invariant
  | auditAddBatchChained transactions events =>
    exact List.foldlRecOn (byTenant events) (chainGroup platform transactions)
      (motive := fun state => ∀ tenantId, TenantInvariant platform tenantId state.1)
      (b := (store, none)) invariant fun _ kept _ _ => tenantInvariant_chainGroup kept

theorem tenantInvariant_legacy (legacy : LegacyLog) (tenantId : String) :
    TenantInvariant platform tenantId legacy.store := by
  have unchained : legacy.store.chainRows tenantId = [] := by
    simp only [chainRows, tenantRows, LegacyLog.store, filter_eq_nil_iff, mem_filter]
    intro row rowMem
    simp [(legacy.unchained row rowMem.1).1]
  have anonymous : legacy.store.clientEventIds tenantId = [] := by
    simp only [clientEventIds, tenantRows, LegacyLog.store, filterMap_eq_nil_iff, mem_filter]
    intro row rowMem
    exact (legacy.unchained row rowMem.1).2
  constructor
  · rw [unchained]
    rfl
  · rw [unchained]
    rfl
  · rw [anonymous]
    exact nodup_nil

/-- After any sequence of calls the chain of every tenant is intact. -/
theorem tenantInvariant_runCalls (legacy : LegacyLog) (calls : List Call) (tenantId : String) :
    TenantInvariant platform tenantId (runCalls platform legacy.store calls) :=
  List.foldlRecOn calls (Call.apply platform)
    (motive := fun store => ∀ tenantId, TenantInvariant platform tenantId store)
    (tenantInvariant_legacy legacy) (fun _ kept call _ => tenantInvariant_apply call kept)
    tenantId

/-! ## Verification -/

/-- The rows of an intact chain are read in the order in which they were
written. -/
theorem rowsFrom_of_intact (linked : ChainIntact platform (store.chainRows tenantId) last) :
    rowsFrom store tenantId 1 = store.chainRows tenantId := by
  have allRead : (store.chainRows tenantId).filter
      (fun row => 1 ≤ row.seq.getD 0) = store.chainRows tenantId := by
    rw [filter_eq_self]
    intro row rowMem
    obtain ⟨number, rowNumber, above⟩ := Intact.number_ge linked rowMem
    have seqEq : row.seq = some number := rowNumber
    simpa [seqEq] using above
  rw [rowsFrom, allRead]
  refine List.Pairwise.insertionSort_eq (linked.pairwise_number.imp ?_)
  rintro before after ⟨m, n, beforeNumber, afterNumber, below⟩
  have beforeSeq : before.seq = some m := beforeNumber
  have afterSeq : after.seq = some n := afterNumber
  rw [seqLe, beforeSeq, afterSeq]
  exact Int.le_of_lt below

/-- The numbers of an intact chain are `1` to `n`. -/
theorem map_seq_of_intact (linked : ChainIntact platform rows last) : rows.map AuditRow.seq =
      (List.range rows.length).map fun index : Nat => some ((index : Int) + 1) := by
  apply ext_getElem?
  intro index
  rw [List.getElem?_map, List.getElem?_map]
  cases found : rows[index]? with
  | none =>
    rw [List.getElem?_eq_none_iff] at found
    simp [found]
  | some row =>
    have below : index < rows.length := (List.getElem?_eq_some_iff.mp found).1
    have numbered : row.seq = some (1 + (index : Int)) := linked.number_eq found
    rw [map_some, numbered, Int.add_comm, List.getElem?_range below]
    rfl

/-- The head row of a tenant, if there is one, is the end of the rows. -/
def HeadMatches (store : AuditStore) (tenantId : String) (rows : List AuditRow) : Prop :=
  match rows.getLast? with
  | none => store.heads tenantId = none ∨ store.heads tenantId = some .genesis
  | some row =>
    ∃ hash, row.eventHash = some hash ∧
      store.heads tenantId = some ⟨rows.length, hash⟩

theorem TenantInvariant.headMatches (invariant : TenantInvariant platform tenantId store) :
    HeadMatches store tenantId (store.chainRows tenantId) := by
  obtain ⟨linked, counted, _⟩ := invariant
  unfold HeadMatches
  cases isLast : (store.chainRows tenantId).getLast? with
  | none =>
    rw [List.getLast?_eq_none_iff] at isLast
    rw [isLast] at linked counted
    cases found : store.heads tenantId with
    | none => exact .inl rfl
    | some head =>
      have headEq : store.head tenantId = head := by
        rw [AuditStore.head, found, getD_some]
      rw [headEq] at linked counted
      refine .inr (congrArg some ?_)
      cases head
      exact ChainHead.mk.injEq .. ▸ ⟨counted, linked⟩
  | some row =>
    refine ⟨_, (linked.getLast_digest isLast).1, ?_⟩
    have nonempty : (store.chainRows tenantId).length ≠ 0 := by
      rw [Ne, length_eq_zero_iff, ← List.getLast?_eq_none_iff, isLast]
      exact some_ne_none row
    cases found : store.heads tenantId with
    | none =>
      rw [AuditStore.head, found, getD_none, ChainHead.genesis] at counted
      dsimp only at counted
      omega
    | some head =>
      have headEq : store.head tenantId = head := by
        rw [AuditStore.head, found, getD_some]
      rw [headEq] at counted ⊢
      rw [← counted]

/-- The verification of a tenant's whole chain succeeds. -/
theorem TenantInvariant.auditVerifyChain_eq {limit : Nat}
    (invariant : TenantInvariant platform tenantId store)
    (hasRoom : (store.chainRows tenantId).length < limit) :
    auditVerifyChain platform store tenantId limit 1 =
      some (.valid tenantId (store.chainRows tenantId).length
        (some (store.chainRows tenantId).length) false none) := by
  have readAll : (rowsFrom store tenantId 1).take limit = store.chainRows tenantId := by
    rw [rowsFrom_of_intact invariant.linked]
    exact take_of_length_le (Nat.le_of_lt hasRoom)
  have endSeq : (1 : Int) + (store.chainRows tenantId).length - 1 =
      (store.chainRows tenantId).length := by
    omega
  have atHead : (store.heads tenantId).getD .genesis =
      ⟨1 + (store.chainRows tenantId).length - 1, (store.head tenantId).lastHash⟩ := by
    rw [endSeq, ← invariant.counted]
    rfl
  have notFull : ¬ limit ≤ (store.chainRows tenantId).length := Nat.not_le.mpr hasRoom
  change verifyAuditChainRows platform tenantId ((rowsFrom store tenantId 1).take limit)
    (store.heads tenantId) limit 1 (some genesisPrevHash) = _
  rw [readAll, verifyAuditChainRows_of_intact (Int.le_refl 1) (fun _ => rfl)
    invariant.linked, if_neg fun broken => broken.2 atHead]
  simp [validReport, notFull, endSeq]

/-- Writer and verifier agree: after any sequence of calls the chained rows of a
tenant are numbered `1` to `n`, no client id was chained twice, the head is the
end of the chain, and a verification with room for all rows finds them valid. -/
theorem writer_verifier_agree (platform : Platform) (legacy : LegacyLog)
    (calls : List Call) (tenantId : String) (limit : Nat)
    (hasRoom : ((runCalls platform legacy.store calls).chainRows tenantId).length < limit) :
    let store := runCalls platform legacy.store calls
    let rows := store.chainRows tenantId
    rows.map AuditRow.seq =
        (List.range rows.length).map (fun index : Nat => some ((index : Int) + 1)) ∧
      (store.clientEventIds tenantId).Nodup ∧
      HeadMatches store tenantId rows ∧
      auditVerifyChain platform store tenantId limit 1 =
        some (.valid tenantId rows.length (some rows.length) false none) := by
  intro store rows
  have invariant : TenantInvariant platform tenantId store :=
    tenantInvariant_runCalls legacy calls tenantId
  refine ⟨map_seq_of_intact invariant.linked, invariant.unique,
    invariant.headMatches, invariant.auditVerifyChain_eq hasRoom⟩

/-- ASCII patterns, no text that is a UUID, and a column that keeps documents as
they are. -/
def asciiPlatform : Platform where
  classes := .ascii
  floatText _ := []
  parseUuid _ := none
  parseUuid_empty := rfl
  detailColumn := id
  detailColumn_value _ := rfl

/-- A transaction at the epoch that commits. -/
def epochTransaction : Transaction where
  now := Instant.epoch
  newId seq := Uuid.ofNat seq.toNat
  fails := false

/-- An event with a client id. -/
def flushedEvent : Event where
  tenantId := "acme"
  agentId := some "writer"
  action := "memory.create"
  resourceType := "memory"
  resourceId := none
  detail := .obj [("count", .float 1)]
  createdAt := none
  clientEventId := some "flush-1"

/-- A batch that is sent twice, between two single events. -/
def resentCalls : List Call :=
  [.auditAdd epochTransaction "acme" none "login" "session" none .null,
    .auditAddBatchChained (fun _ => epochTransaction) [flushedEvent, flushedEvent],
    .auditAddBatchChained (fun _ => epochTransaction) [flushedEvent],
    .auditAdd epochTransaction "acme" none "logout" "session" none .null]

/-- A log without rows. -/
def LegacyLog.empty : LegacyLog where
  rows := []
  unchained := by simp

/-- The batch that is sent twice is chained once. -/
theorem writer_verifier_agree_resent : auditVerifyChain asciiPlatform
        (runCalls asciiPlatform LegacyLog.empty.store resentCalls) "acme" 4 1 =
      some (.valid "acme" 3 (some 3) false none) := by
  have rowCount : ((runCalls asciiPlatform LegacyLog.empty.store
      resentCalls).chainRows "acme").length = 3 := by
    decide
  have agreement := writer_verifier_agree asciiPlatform .empty resentCalls "acme" 4
    (by rw [rowCount]; decide)
  exact agreement.2.2.2

end Caura.Audit
