import Caura.Usage.Aggregator
import Mathlib.Algebra.BigOperators.Group.List.Basic

/-!
# Usage is counted once

For every count of every row: what was recorded is what storage holds, what is in the current
totals, what waits and has not landed, what the cap on the waiting batches dropped before it had
landed, and what `allow_tenants` switched off.  That holds in every state of a run in which the
loop is never cancelled while it waits for `allow_tenants`, and storage is sent no part of a tenant
whose own settings switch metering off.  A cancellation there takes the drained batch with it.

The invariant follows a batch from the totals into the hand of a flush, into the pending list and
out of it.  A part of a batch counts as waiting until its request id is claimed.
-/

namespace Caura.Usage

open Caura.Transition Caura.Value List

universe u

/-! ## Amounts -/

/-- One count of one row. -/
inductive Measure
  | llm (key : LlmKey) (count : LlmCount)
  | value (key : ValueKey)

/-- The tenant of its row. -/
def Measure.tenantId : Measure → String
  | .llm key _ => key.1
  | .value key => key.1

/-- What the rows hold of a count. -/
def Rows.amount (rows : Rows) : Measure → Int
  | .llm key count => Tally.total key rows.llm count
  | .value key => Tally.total key rows.value

namespace Rows

theorem amount_empty (measure : Measure) : ({} : Rows).amount measure = 0 := by
  cases measure <;> rfl

variable {rows : Rows}

theorem amount_of_size_eq_zero (isEmpty : rows.size = 0) (measure : Measure) :
    rows.amount measure = 0 := by
  have noLlm : rows.llm = [] := length_eq_zero_iff.mp (Nat.eq_zero_of_add_eq_zero_right isEmpty)
  have noValue : rows.value = [] :=
    length_eq_zero_iff.mp (Nat.eq_zero_of_add_eq_zero_left isEmpty)
  cases measure with
  | llm key count => rw [amount, noLlm]; rfl
  | value key => rw [amount, noValue]; rfl

section Amounts

variable (rows) (now : Int) (call : ModelCall) (record : ValueRecord) (keep : String → Bool)
  (measure : Measure)

/-- A call adds to the totals what it is noted with. -/
theorem amount_addModelCall :
    (rows.addModelCall now call).amount measure = (rows.noteModelCall now call).amount measure := by
  cases measure with
  | llm key count =>
    simp [amount, addModelCall, noteModelCall, Tally.total_add, Tally.total, add_comm]
  | value key => rfl

theorem amount_addValue :
    (rows.addValue now record).amount measure = (rows.noteValue now record).amount measure := by
  unfold addValue noteValue
  split
  · rfl
  · cases measure with
    | llm key count => rfl
    | value key => simp only [amount, Tally.total_add, Tally.total, add_comm]

theorem amount_noteModelCall : (rows.noteModelCall now call).amount measure =
      (noteModelCall {} now call).amount measure + rows.amount measure := by
  cases measure with
  | llm key count => simp [amount, noteModelCall, Tally.total]
  | value key => exact (zero_add _).symm

theorem amount_noteValue : (rows.noteValue now record).amount measure =
      (noteValue {} now record).amount measure + rows.amount measure := by
  unfold noteValue
  split
  · rw [amount_empty, zero_add]
  · cases measure with
    | llm key count => exact (zero_add _).symm
    | value key => simp [amount, Tally.total]

theorem amount_restrict : (rows.restrict keep).amount measure =
      if keep measure.tenantId then rows.amount measure else 0 := by
  cases measure with
  | llm key count =>
    have chosen := Tally.total_filter key (fun key => keep key.1) rows.llm
    rw [amount, restrict, chosen, Measure.tenantId]
    split <;> rfl
  | value key => exact Tally.total_filter key (fun key => keep key.1) rows.value

theorem amount_restrict_add :
    (rows.restrict keep).amount measure +
        (rows.restrict fun tenant => !keep tenant).amount measure =
      rows.amount measure := by
  rw [amount_restrict, amount_restrict]
  cases keep measure.tenantId with
  | true => exact add_zero _
  | false => exact zero_add _

end Amounts

theorem mem_tenants {tenant : String} : tenant ∈ rows.tenants ↔
      (∃ row ∈ rows.llm, row.1.1 = tenant) ∨ ∃ row ∈ rows.value, row.1.1 = tenant := by
  rw [tenants, mem_dedup, mem_append, mem_map, mem_map]

theorem amount_of_notMem_tenants {measure : Measure} (absent : measure.tenantId ∉ rows.tenants) :
    rows.amount measure = 0 := by
  rw [mem_tenants, not_or] at absent
  cases measure with
  | llm key count =>
    exact congrFun (Tally.total_eq_zero fun row isRow same =>
      absent.1 ⟨row, isRow, congrArg Prod.fst same⟩) count
  | value key =>
    exact Tally.total_eq_zero fun row isRow same =>
      absent.2 ⟨row, isRow, congrArg Prod.fst same⟩

end Rows

/-! ## Requests -/

variable {RequestId : Type u} (ids : RequestIds RequestId)

/-- Storage writes the rows of a part under the tenant they were taken from. -/
theorem map_tenant_filter {β γ : Type} (rows : List ((String × β) × γ)) (tenant : String) :
    ((rows.filter fun row => row.1.1 = tenant).map fun row => (row.1.2, row.2)).map
        (fun row => ((tenant, row.1), row.2)) =
      rows.filter fun row => row.1.1 = tenant := by
  rw [map_map]
  conv_rhs => rw [← map_id (rows.filter fun row => row.1.1 = tenant)]
  refine map_congr_left fun row isRow => ?_
  have same : row.1.1 = tenant := of_decide_eq_true (mem_filter.mp isRow).2
  rw [← same]
  rfl

variable {tenant : String} {batch : Batch} {part : Part RequestId}

theorem mem_perTenant : (tenant, part) ∈ perTenant ids batch ↔
      tenant ∈ batch.tenants ∧ part = batch.part ids tenant := by
  rw [perTenant, mem_map]
  constructor
  · rintro ⟨other, isTenant, same⟩
    cases same
    exact ⟨(mem_insertionSort _).mp isTenant, rfl⟩
  · rintro ⟨isTenant, rfl⟩
    exact ⟨tenant, (mem_insertionSort _).mpr isTenant, rfl⟩

variable [DecidableEq RequestId] {store : UsageStore RequestId}

theorem claimed_usageFlush (unclaimed : part.batchId ∉ store.claimed) (tenant : String)
    (off : Bool) :
    (store.usageFlush tenant part off).2.claimed = part.batchId :: store.claimed := by
  rw [UsageStore.usageFlush, if_neg unclaimed]

theorem usageFlush_of_claimed (claimed : part.batchId ∈ store.claimed) (tenant : String)
    (off : Bool) : (store.usageFlush tenant part off).2 = store := by
  rw [UsageStore.usageFlush, if_pos claimed]

/-- A part that lands adds what its batch holds of the tenant. -/
theorem amount_usageFlush (unclaimed : (batch.part ids tenant).batchId ∉ store.claimed)
    (measure : Measure) :
    (store.usageFlush tenant (batch.part ids tenant) false).2.amount measure =
      store.amount measure + if measure.tenantId = tenant then batch.amount measure else 0 := by
  have lands : (store.usageFlush tenant (batch.part ids tenant) false).2.toRows =
      { llm := Tally.addAll store.llm (batch.restrict fun other => other = tenant).llm
        value := Tally.addAll store.value (batch.restrict fun other => other = tenant).value } := by
    rw [UsageStore.usageFlush, if_neg unclaimed]
    simp only [Batch.part, Bool.false_eq_true, if_false, map_tenant_filter]
    rfl
  have taken := batch.amount_restrict (fun other => other = tenant) measure
  simp only [decide_eq_true_eq] at taken
  rw [lands, ← taken]
  cases measure with
  | llm key count => exact congrFun (Tally.total_addAll key _ _) count
  | value key => exact Tally.total_addAll key _ _

/-! ## What waits -/

/-- What a batch holds of a count and storage has not taken yet. -/
def Batch.openAmount (store : UsageStore RequestId) (measure : Measure) (batch : Batch) : Int :=
  if ids.uuid5 batch.batchId measure.tenantId ∈ store.claimed then 0 else batch.amount measure

/-- What the batches hold of a count and storage has not taken yet. -/
def openAmounts (store : UsageStore RequestId) (measure : Measure) (batches : List Batch) : Int :=
  (batches.map (Batch.openAmount ids store measure)).sum

theorem openAmounts_append (store : UsageStore RequestId) (measure : Measure)
    (batches more : List Batch) :
    openAmounts ids store measure (batches ++ more) =
      openAmounts ids store measure batches + openAmounts ids store measure more := by
  rw [openAmounts, map_append, sum_append]
  rfl

theorem openAmounts_cons (store : UsageStore RequestId) (measure : Measure) (batch : Batch)
    (batches : List Batch) :
    openAmounts ids store measure (batch :: batches) =
      batch.openAmount ids store measure + openAmounts ids store measure batches := by
  rfl

variable {store after : UsageStore RequestId}

/-- A request of another batch takes nothing of this one. -/
theorem openAmount_of_ne {other : Batch}
    (claims : after.claimed = ids.uuid5 batch.batchId tenant :: store.claimed)
    (differs : other.batchId ≠ batch.batchId) (measure : Measure) :
    other.openAmount ids after measure = other.openAmount ids store measure := by
  have otherId : ids.uuid5 other.batchId measure.tenantId ≠ ids.uuid5 batch.batchId tenant :=
    fun same => differs (ids.uuid5_injective same).1
  simp [Batch.openAmount, claims, otherId]

section

variable (claims : after.claimed = ids.uuid5 batch.batchId tenant :: store.claimed)

include claims

variable {batches : List Batch}

theorem openAmounts_of_notMem (absent : batch.batchId ∉ batches.map Batch.batchId)
    (measure : Measure) :
    openAmounts ids after measure batches = openAmounts ids store measure batches := by
  rw [openAmounts]
  congr 1
  refine map_congr_left fun other isOther => ?_
  refine openAmount_of_ne ids claims (fun same => absent ?_) measure
  exact mem_map.mpr ⟨other, isOther, same⟩

/-- A request that is claimed takes what its batch holds of the tenant. -/
theorem openAmount_of_claims (unclaimed : ids.uuid5 batch.batchId tenant ∉ store.claimed)
    (measure : Measure) :
    batch.openAmount ids after measure +
        (if measure.tenantId = tenant then batch.amount measure else 0) =
      batch.openAmount ids store measure := by
  by_cases same : measure.tenantId = tenant
  · simp only [Batch.openAmount, claims, same, mem_cons_self, unclaimed, if_true, if_false,
      zero_add]
  · have otherId : ids.uuid5 batch.batchId measure.tenantId ≠ ids.uuid5 batch.batchId tenant :=
      fun sameId => same (ids.uuid5_injective sameId).2
    simp only [Batch.openAmount, claims, mem_cons, otherId, false_or, same, if_false, add_zero]

theorem openAmounts_of_claims (unclaimed : ids.uuid5 batch.batchId tenant ∉ store.claimed)
    (nodup : (batches.map Batch.batchId).Nodup) (isBatch : batch ∈ batches) (measure : Measure) :
    openAmounts ids after measure batches +
        (if measure.tenantId = tenant then batch.amount measure else 0) =
      openAmounts ids store measure batches := by
  induction batches with
  | nil => cases isBatch
  | cons first batches ih =>
    obtain ⟨fresh, nodupRest⟩ := nodup_cons.mp nodup
    rw [openAmounts_cons, openAmounts_cons]
    rcases mem_cons.mp isBatch with rfl | later
    · have here := openAmount_of_claims ids claims unclaimed measure
      have rest := openAmounts_of_notMem ids claims fresh measure
      omega
    · have here := openAmount_of_ne ids claims
        (fun same => fresh (same ▸ mem_map_of_mem later)) measure
      have rest := ih nodupRest later
      omega

end

/-! ## The invariant -/

namespace World

/-- Every batch that was ever queued. -/
def queued (world : World RequestId) : List Batch :=
  world.history.delivered ++ world.history.dropped ++ world.aggregator.pending

/-- The batch a flush has drained and not queued yet. -/
def inHand (world : World RequestId) : List Batch :=
  match world.flush with
  | .filtering _ drained => [drained]
  | _ => []

/-- What was switched off of a count. -/
def switchedOffAmount (world : World RequestId) (measure : Measure) : Int :=
  (world.history.switchedOff.map fun rows => rows.amount measure).sum

/-- The invariant, for a flush that holds the batches `hand`. -/
structure Sound (world : World RequestId) (hand : List Batch) : Prop where
  nodup : ((world.queued ++ hand).map Batch.batchId).Nodup
  issued : ∀ batch ∈ world.queued ++ hand, batch.batchId < world.nextBatchId
  posted : ∀ batch ∈ world.posted, batch ∈ world.queued
  claimed : ∀ id ∈ world.store.claimed, ∃ batch ∈ world.posted, ∃ tenant,
    id = ids.uuid5 batch.batchId tenant
  delivered : ∀ batch ∈ world.history.delivered, ∀ tenant ∈ batch.tenants,
    ids.uuid5 batch.batchId tenant ∈ world.store.claimed
  counted : ∀ measure,
    world.history.recorded.amount measure =
      world.store.amount measure + world.aggregator.amount measure +
        (hand.map fun batch => batch.amount measure).sum +
        openAmounts ids world.store measure world.queued + world.switchedOffAmount measure

variable {ids} {world : World RequestId} {hand : List Batch}

/-- A state that differs in where the flush is. -/
theorem Sound.withFlush (sound : world.Sound ids hand) (flush : Flush) :
    { world with flush := flush }.Sound ids hand :=
  ⟨sound.nodup, sound.issued, sound.posted, sound.claimed, sound.delivered, sound.counted⟩

/-- No request of a batch in the hand of a flush is claimed. -/
theorem Sound.unclaimed (sound : world.Sound ids [batch]) (tenant : String) :
    ids.uuid5 batch.batchId tenant ∉ world.store.claimed := by
  intro isClaimed
  obtain ⟨other, isPosted, otherTenant, same⟩ := sound.claimed _ isClaimed
  have nodup := sound.nodup
  rw [map_append, nodup_append] at nodup
  refine nodup.2.2 other.batchId (mem_map_of_mem (sound.posted other isPosted))
    batch.batchId (mem_map_of_mem (.head _)) ?_
  exact (ids.uuid5_injective same).1.symm

theorem Sound.queue (sound : world.Sound ids [batch]) : (world.queue batch).Sound ids [] := by
  unfold World.queue
  split
  next isEmpty =>
    refine ⟨?_, ?_, sound.posted, sound.claimed, sound.delivered, fun measure => ?_⟩
    · rw [append_nil]
      exact (nodup_append.mp (map_append ▸ sound.nodup)).1
    · rw [append_nil]
      exact fun other isOther => sound.issued other (mem_append_left _ isOther)
    · rw [sound.counted measure]
      simp [Rows.amount_of_size_eq_zero isEmpty measure]
  · have appended : queued { world with
        aggregator := { world.aggregator with pending := world.aggregator.pending ++ [batch] } } =
        world.queued ++ [batch] :=
      (append_assoc _ _ _).symm
    refine ⟨?_, ?_, ?_, sound.claimed, sound.delivered, fun measure => ?_⟩
    · rw [appended, append_nil]
      exact sound.nodup
    · rw [appended, append_nil]
      exact sound.issued
    · rw [appended]
      exact fun other isPosted => mem_append_left _ (sound.posted other isPosted)
    · have isOpen : batch.openAmount ids world.store measure = batch.amount measure :=
        if_neg (sound.unclaimed measure.tenantId)
      have none : openAmounts ids world.store measure [] = 0 := rfl
      rw [appended, openAmounts_append, openAmounts_cons, sound.counted measure]
      simp only [map_cons, sum_cons, switchedOffAmount]
      omega

theorem Sound.cap (sound : world.Sound ids hand) : world.cap.Sound ids hand := by
  have same : world.cap.queued = world.queued := by
    simp [queued, World.cap]
  exact ⟨same ▸ sound.nodup, same ▸ sound.issued, same ▸ sound.posted, sound.claimed,
    sound.delivered, same ▸ sound.counted⟩

theorem Sound.post (sound : world.Sound ids []) (inLoop : Bool) :
    (world.post inLoop).Sound ids [] := by
  unfold World.post
  split
  · exact sound.withFlush _
  next first rest isPending =>
    refine ⟨sound.nodup, sound.issued, ?_, ?_, sound.delivered, sound.counted⟩
    · intro batch isPosted
      rcases mem_cons.mp isPosted with rfl | before
      · exact mem_append_right _ (isPending ▸ (.head _))
      · exact sound.posted batch before
    · intro id isClaimed
      obtain ⟨batch, isPosted, isId⟩ := sound.claimed id isClaimed
      exact ⟨batch, .tail _ isPosted, isId⟩

omit [DecidableEq RequestId] in
theorem inHand_post (world : World RequestId) (inLoop : Bool) :
    (world.post inLoop).inHand = [] := by
  unfold World.post
  split
  · cases inLoop <;> rfl
  · rfl

theorem Sound.drain (sound : world.Sound ids []) : world.drain.2.Sound ids [world.drain.1] := by
  have nodup := sound.nodup
  have issued := sound.issued
  rw [append_nil] at nodup issued
  refine ⟨?_, ?_, sound.posted, sound.claimed, sound.delivered, fun measure => ?_⟩
  · refine map_append ▸ nodup_append.mpr ⟨nodup, nodup_singleton _, ?_⟩
    intro id isQueued new isNew same
    obtain ⟨batch, isBatch, rfl⟩ := mem_map.mp isQueued
    rw [map_singleton, mem_singleton] at isNew
    exact Nat.ne_of_lt (issued batch isBatch) (same.trans isNew)
  · exact forall_mem_append.mpr ⟨fun batch isQueued => Nat.lt_succ_of_lt (issued batch isQueued),
      forall_mem_singleton.mpr (Nat.lt_succ_self _)⟩
  · have before := sound.counted measure
    have emptied := Rows.amount_empty measure
    simp only [World.drain, map_cons, map_nil, sum_cons, sum_nil] at before ⊢
    rw [before, emptied]
    simp only [add_zero]
    rfl

theorem Sound.beginFlush (sound : world.Sound ids []) (filters inLoop : Bool) :
    (world.beginFlush filters inLoop).Sound ids (world.beginFlush filters inLoop).inHand := by
  unfold World.beginFlush
  split
  · rw [inHand_post]
    exact sound.cap.post inLoop
  · have drained := sound.drain
    dsimp only
    split
    · exact drained.withFlush _
    · rw [inHand_post]
      exact drained.queue.cap.post inLoop

/-- Filtering parts the rows of the drained batch. -/
theorem Sound.filtered {drained : Batch} (sound : world.Sound ids [drained]) (inLoop : Bool)
    (allowed : Option (List String)) :
    (world.filtered inLoop drained allowed).Sound ids [] := by
  refine Sound.post (Sound.cap (Sound.queue ?_)) inLoop
  refine ⟨?_, ?_, sound.posted, sound.claimed, sound.delivered, fun measure => ?_⟩
  · have nodup := sound.nodup
    rw [map_append] at nodup ⊢
    exact nodup
  · obtain ⟨isQueued, isDrained⟩ := forall_mem_append.mp sound.issued
    exact forall_mem_append.mpr ⟨isQueued, forall_mem_singleton.mpr (isDrained drained (.head _))⟩
  · have before := sound.counted measure
    have parts := drained.amount_restrict_add (meters allowed) measure
    simp only [switchedOffAmount, map_cons, sum_cons] at before ⊢
    rw [before]
    simp only [queued]
    omega

theorem Sound.arrives (sound : world.Sound ids hand) (isPosted : batch ∈ world.posted)
    (tenant : String) : Sound ids { world with
      store := (world.store.usageFlush tenant (batch.part ids tenant) false).2 } hand := by
  by_cases isClaimed : (batch.part ids tenant).batchId ∈ world.store.claimed
  · rwa [usageFlush_of_claimed isClaimed]
  · have claims := claimed_usageFlush isClaimed tenant false
    refine ⟨sound.nodup, sound.issued, sound.posted, ?_, ?_, fun measure => ?_⟩
    · intro id isId
      rw [claims] at isId
      rcases mem_cons.mp isId with rfl | before
      · exact ⟨batch, isPosted, tenant, rfl⟩
      · exact sound.claimed id before
    · intro other isDelivered otherTenant isTenant
      rw [claims]
      exact .tail _ (sound.delivered other isDelivered otherTenant isTenant)
    · have nodup := (nodup_append.mp (map_append ▸ sound.nodup)).1
      have taken := openAmounts_of_claims ids claims isClaimed nodup
        (sound.posted batch isPosted) measure
      have landed := amount_usageFlush ids isClaimed measure
      have before := sound.counted measure
      simp only [queued, switchedOffAmount] at before taken ⊢
      omega

theorem Sound.delivers (sound : world.Sound ids []) {rest : List Batch}
    (isPending : world.aggregator.pending = batch :: rest)
    (landed : ∀ request ∈ perTenant ids batch, request.2.batchId ∈ world.store.claimed) :
    { world with
      aggregator := { world.aggregator with pending := rest }
      history :=
        { world.history with delivered := batch :: world.history.delivered } }.Sound ids [] := by
  have moved : (batch :: world.history.delivered ++ world.history.dropped ++ rest).Perm
      world.queued := by
    rw [World.queued, isPending]
    exact perm_middle.symm
  refine ⟨?_, ?_, ?_, sound.claimed, ?_, fun measure => ?_⟩
  · have nodup := sound.nodup
    rw [append_nil] at nodup ⊢
    exact ((moved.map _).nodup_iff).mpr nodup
  · intro other isOther
    rw [append_nil] at isOther
    exact sound.issued other (mem_append_left _ (moved.mem_iff.mp isOther))
  · exact fun other isPosted => moved.mem_iff.mpr (sound.posted other isPosted)
  · intro other isDelivered tenant isTenant
    rcases mem_cons.mp isDelivered with rfl | before
    · exact landed _ ((mem_perTenant ids).mpr ⟨isTenant, rfl⟩)
    · exact sound.delivered other before tenant isTenant
  · have same : openAmounts ids world.store measure
        (batch :: world.history.delivered ++ world.history.dropped ++ rest) =
        openAmounts ids world.store measure world.queued :=
      (moved.map _).sum_eq
    have before := sound.counted measure
    rwa [← same] at before

/-- The step keeps what is drained: the loop is not cancelled with a batch in its hand, and
storage is sent no part of a tenant whose settings switch metering off. -/
def KeepsUsage (world : World RequestId) : UsageAction → Prop
  | .cancel => world.inHand = []
  | .arrives _ _ off => off = false
  | _ => True

instance decidableKeepsUsage (world : World RequestId) (action) :
    Decidable (world.KeepsUsage action) := by
  cases action <;> dsimp only [World.KeepsUsage] <;> infer_instance

theorem Sound.add (sound : world.Sound ids hand) {rows recorded : Rows} {amount : Measure → Int}
    (adds : ∀ measure, rows.amount measure = amount measure + world.aggregator.amount measure)
    (records : ∀ measure, recorded.amount measure =
      amount measure + world.history.recorded.amount measure) :
    { world with
      aggregator := { world.aggregator with toRows := rows }
      history := { world.history with recorded := recorded } }.Sound ids hand := by
  refine ⟨sound.nodup, sound.issued, sound.posted, sound.claimed, sound.delivered,
    fun measure => ?_⟩
  have before := sound.counted measure
  simp only [queued, switchedOffAmount] at before ⊢
  rw [records, adds]
  omega

theorem Sound.step {filters : Bool} {after : World RequestId} {action : UsageAction}
    (sound : world.Sound ids world.inHand) (keeps : world.KeepsUsage action)
    (isStep : world.step ids filters action = some after) : after.Sound ids after.inHand := by
  revert isStep
  -- One case for each line of the step function that gives a state, in its order.
  fun_cases World.step ids filters world action <;> intro isStep <;> try cases isStep
  · exact sound.add (fun _ => (Rows.amount_addModelCall _ _ _ _).trans
      (Rows.amount_noteModelCall _ _ _ _)) (Rows.amount_noteModelCall _ _ _)
  · exact sound.add (fun _ => (Rows.amount_addValue _ _ _ _).trans
      (Rows.amount_noteValue _ _ _ _)) (Rows.amount_noteValue _ _ _)
  next isIdle =>
    rw [inHand, isIdle] at sound
    exact sound.withFlush _
  · exact sound
  next isSleeping =>
    rw [inHand, isSleeping] at sound
    exact sound.beginFlush filters true
  next isIdle =>
    rw [inHand, isIdle] at sound
    exact sound.beginFlush filters false
  next inLoop drained isFiltering =>
    rw [inHand, isFiltering] at sound
    rw [World.filtered, inHand_post]
    exact sound.filtered inLoop _
  next tenant _ batch found =>
    cases keeps
    obtain ⟨part, isPart, rfl⟩ := Option.map_eq_some_iff.mp isStep
    obtain ⟨before, behind, isRequest, -⟩ := lookup_eq_some_iff.mp isPart
    have isMem : (tenant, part) ∈ perTenant ids batch := by
      rw [isRequest]
      exact mem_append_right _ (.head _)
    obtain ⟨-, rfl⟩ := (mem_perTenant ids).mp isMem
    exact sound.arrives (mem_of_find?_eq_some found) tenant
  next inLoop batch rest isPending isPosting landed =>
    rw [inHand, isPosting] at sound
    rw [inHand_post]
    exact (sound.delivers isPending landed).post inLoop
  next inLoop isPosting =>
    rw [inHand, isPosting] at sound
    cases inLoop <;> exact sound.withFlush _
  next isSleeping =>
    rw [inHand, isSleeping] at sound
    exact sound.withFlush _
  next isFiltering =>
    rw [KeepsUsage, inHand, isFiltering] at keeps
    cases keeps
  next isPosting =>
    rw [inHand, isPosting] at sound
    exact sound.withFlush _

theorem Sound.empty : ({} : World RequestId).Sound ids [] := by
  refine ⟨nodup_nil, nofun, nofun, nofun, nofun, fun measure => ?_⟩
  simp only [Rows.amount_empty]
  rfl

end World

/-! ## Nothing is lost or counted twice -/

namespace World

/-- What waits of a count: in the hand of a flush, and in the pending batches as far as it has not
landed. -/
def waiting (world : World RequestId) (measure : Measure) : Int :=
  (world.inHand.map fun batch => batch.amount measure).sum +
    openAmounts ids world.store measure world.aggregator.pending

/-- What the cap on the pending batches dropped of a count, as far as it has not landed. -/
def lostToCap (world : World RequestId) (measure : Measure) : Int :=
  openAmounts ids world.store measure world.history.dropped

/-- The quantity recorded is in storage, in the current totals, waits, was dropped by the cap or
was switched off. -/
def CountedOnce (world : World RequestId) (measure : Measure) : Prop :=
  world.history.recorded.amount measure =
    world.store.amount measure + world.aggregator.amount measure + world.waiting ids measure +
      world.lostToCap ids measure + world.switchedOffAmount measure

end World

/-- Nothing of a batch that was delivered waits. -/
theorem openAmounts_delivered {world : World RequestId} {hand : List Batch}
    (sound : world.Sound ids hand) (measure : Measure) :
    openAmounts ids world.store measure world.history.delivered = 0 := by
  have none : ∀ batch ∈ world.history.delivered, batch.openAmount ids world.store measure = 0 := by
    intro batch isDelivered
    by_cases isTenant : measure.tenantId ∈ batch.tenants
    · exact if_pos (sound.delivered batch isDelivered _ isTenant)
    · rw [Batch.openAmount, Rows.amount_of_notMem_tenants isTenant, ite_self]
  rw [openAmounts, map_congr_left none]
  simp

/-- In every run in which the loop is not cancelled while it waits for `allow_tenants`, and storage
is sent no part of a tenant whose settings switch metering off, each count of each row is counted
once in every state reached. -/
theorem usage_counted_once (filters : Bool) {actions : List UsageAction}
    {target : World RequestId}
    (kept : GuardedRun (World.step ids filters) World.KeepsUsage {} actions)
    (runEq : run (World.step ids filters) {} actions = some target) (measure : Measure) :
    target.CountedOnce ids measure := by
  have preserved : ∀ (source : World RequestId) action after,
      source.Sound ids source.inHand → source.KeepsUsage action →
      source.step ids filters action = some after → after.Sound ids after.inHand :=
    fun _ _ _ sound keeps isStep => sound.step keeps isStep
  have sound := invariant_of_guardedRun preserved World.Sound.empty kept runEq
  have counted := sound.counted measure
  rw [World.queued, openAmounts_append, openAmounts_append, openAmounts_delivered ids sound]
    at counted
  rw [World.CountedOnce, World.waiting, World.lostToCap]
  omega

/-- A request is named by its batch and its tenant. -/
def pairIds : RequestIds (Nat × String) where
  uuid5 := Prod.mk
  uuid5_injective := Prod.mk.inj

/-- A saving of a tenant. -/
def saving (tenant : String) (quantity : Int) : ValueRecord where
  scope := { tenantId := some tenant }
  metric := "recall.source_tokens"
  quantity := quantity

/-- Its row in the first minute. -/
def savings (tenant : String) : Measure :=
  .value ((saving tenant 0).key 0)

/-- The first post fails when one of two parts has landed, the loop is cancelled in the post of
the second batch, and the last flush sends it again. -/
def halfLanded : List UsageAction :=
  [.addValue 0 (saving "a" 5), .addValue 0 (saving "b" 2), .start, .flush, .filtered none,
    .arrives 0 "a" false, .postRaises, .addValue 30000000 (saving "a" 7), .flush,
    .filtered (some ["a"]), .arrives 0 "a" false, .arrives 0 "b" false, .postReturns,
    .arrives 1 "a" false, .cancel, .flush, .arrives 1 "a" false, .postReturns]

theorem usage_counted_once_halfLanded :
    ∃ target, run (World.step pairIds true) {} halfLanded = some target ∧
      target.store.amount (savings "a") = 12 ∧ ∀ measure, target.CountedOnce pairIds measure := by
  have kept : GuardedRun (World.step pairIds true) World.KeepsUsage {} halfLanded := by
    decide +kernel
  exact ⟨_, rfl, rfl, usage_counted_once pairIds true kept rfl⟩

/-- `stop()` cancels the loop while it waits for `allow_tenants`, and flushes: the savings are
nowhere. -/
theorem cancelled_filter_loses_usage : ∃ target, run (World.step pairIds true) {}
          [.start, .addValue 0 (saving "a" 5), .flush, .cancel, .flush] = some target ∧
        target.flush matches .idle ∧
        target.history.recorded.amount (savings "a") = 5 ∧
        ¬target.CountedOnce pairIds (savings "a") := by
  unfold World.CountedOnce
  decide +kernel

end Caura.Usage
