import Caura.Transition.Core
import Caura.Value.Tally
import Mathlib.Algebra.Group.Pi.Basic
import Mathlib.Algebra.Ring.Int.Defs
import Mathlib.Algebra.Ring.Nat
import Mathlib.Data.List.Dedup
import Mathlib.Data.List.Sort

/-!
# Usage metering

A service adds its model calls and savings up per minute, tenant, agent, fleet and operation, and a
background loop sends the totals to storage.  A flush takes the totals as a batch, asks which
tenants meter, queues what is left and posts the batches that wait, oldest first, one request for
each tenant of a batch.  Storage claims the id of a request before it adds the rows, so that a
request that is sent again is counted once.

A step of the model is what happens between two suspension points.  A request that was sent may
arrive at any time, any number of times, and a post that returns has had a reply to each of its
requests.  The id of a batch stands for its `uuid4`, a number that was not used before, and the id
of a request for the `uuid5` of the batch and the tenant, different for different ones.
-/

namespace Caura.Usage

open Caura.Transition Caura.Value

universe u

/-! ## Rows -/

/-- `_LLM_COUNTS`. -/
inductive LlmCount
  | calls
  | failures
  | tokensIn
  | tokensOut
  | tokensReasoning
  deriving DecidableEq

/-- The counts of a row of model calls. -/
abbrev Counts := LlmCount → Int

/-- What a row of model calls is about, beside its tenant. -/
structure LlmColumns where
  minute : Int
  agentId : String
  fleetId : String
  operation : String
  kind : String
  provider : String
  model : String
  deriving DecidableEq

/-- What a row of savings is about, beside its tenant. -/
structure ValueColumns where
  minute : Int
  agentId : String
  fleetId : String
  operation : String
  metric : String
  deriving DecidableEq

/-- The keys: a tenant and the other columns. -/
abbrev LlmKey := String × LlmColumns

/-- Those of savings. -/
abbrev ValueKey := String × ValueColumns

/-- Totals of both kinds. -/
structure Rows where
  llm : List (LlmKey × Counts) := []
  value : List (ValueKey × Int) := []

namespace Rows

/-- `len(batch)`. -/
def size (rows : Rows) : Nat :=
  rows.llm.length + rows.value.length

/-- The rows of some tenants. -/
def restrict (rows : Rows) (keep : String → Bool) : Rows where
  llm := rows.llm.filter fun row => keep row.1.1
  value := rows.value.filter fun row => keep row.1.1

/-- The tenants of the rows. -/
def tenants (rows : Rows) : List String :=
  (rows.llm.map (fun row => row.1.1) ++ rows.value.map (fun row => row.1.1)).dedup

end Rows

/-! ## Recording -/

/-- `UsageScope`. -/
structure UsageScope where
  tenantId : Option String
  agentId : Option String := none
  fleetId : Option String := none
  operation : Option String := none

/-- `text or default`. -/
def textOr (text : Option String) (default : String) : String :=
  if text.getD "" = "" then default else text.getD ""

/-- `UNATTRIBUTED`. -/
def unattributed : String := "_unattributed"

/-- `ModelCall`. -/
structure ModelCall where
  scope : UsageScope
  operation : String
  kind : String
  provider : String
  model : String
  tokensIn : Int
  tokensOut : Int
  tokensReasoning : Int
  ok : Bool

/-- `ValueRecord`. -/
structure ValueRecord where
  scope : UsageScope
  metric : String
  quantity : Int

/-- `_minute(now)`, with the clock in microseconds. -/
def minute (now : Int) : Int :=
  now - now % 60000000

/-- The key of a call. -/
def ModelCall.key (call : ModelCall) (now : Int) : LlmKey :=
  (textOr call.scope.tenantId unattributed,
    { minute := minute now
      agentId := textOr call.scope.agentId ""
      fleetId := textOr call.scope.fleetId ""
      operation := call.operation
      kind := call.kind
      provider := call.provider
      model := call.model })

/-- What a call adds to its row. -/
def ModelCall.counts (call : ModelCall) : Counts
  | .calls => if call.ok then 1 else 0
  | .failures => if call.ok then 0 else 1
  | .tokensIn => if call.ok then call.tokensIn else 0
  | .tokensOut => if call.ok then call.tokensOut else 0
  | .tokensReasoning => if call.ok then call.tokensReasoning else 0

/-- The key of a record of a tenant. -/
def ValueRecord.key (record : ValueRecord) (now : Int) : ValueKey :=
  (textOr record.scope.tenantId "",
    { minute := minute now
      agentId := textOr record.scope.agentId ""
      fleetId := textOr record.scope.fleetId ""
      operation := textOr record.scope.operation ""
      metric := record.metric })

/-- `add_model_call(call)`. -/
def Rows.addModelCall (rows : Rows) (now : Int) (call : ModelCall) : Rows :=
  { rows with llm := Tally.add rows.llm (call.key now) call.counts }

/-- `add_value(record)`; a record without a tenant is left out. -/
def Rows.addValue (rows : Rows) (now : Int) (record : ValueRecord) : Rows :=
  if textOr record.scope.tenantId "" = "" then rows
  else { rows with value := Tally.add rows.value (record.key now) record.quantity }

/-- The call as a row of its own. -/
def Rows.noteModelCall (rows : Rows) (now : Int) (call : ModelCall) : Rows :=
  { rows with llm := (call.key now, call.counts) :: rows.llm }

/-- The record as a row of its own, if it has a tenant. -/
def Rows.noteValue (rows : Rows) (now : Int) (record : ValueRecord) : Rows :=
  if textOr record.scope.tenantId "" = "" then rows
  else { rows with value := (record.key now, record.quantity) :: rows.value }

/-! ## Batches and requests -/

/-- `_Batch`. -/
structure Batch extends Rows where
  batchId : Nat

/-- The ids of requests. -/
structure RequestIds (RequestId : Type u) where
  /-- `uuid.uuid5(root, tenant)`. -/
  uuid5 : Nat → String → RequestId
  uuid5_injective : ∀ {root other : Nat} {tenant otherTenant : String},
    uuid5 root tenant = uuid5 other otherTenant → root = other ∧ tenant = otherTenant

/-- The body of a request: the rows of one tenant, without the tenant. -/
structure Part (RequestId : Type u) where
  batchId : RequestId
  llm : List (LlmColumns × Counts)
  value : List (ValueColumns × Int)

variable {RequestId : Type u} [DecidableEq RequestId] (ids : RequestIds RequestId)

/-- The part of a tenant in a batch. -/
def Batch.part (batch : Batch) (tenant : String) : Part RequestId where
  batchId := ids.uuid5 batch.batchId tenant
  llm := (batch.llm.filter fun row => row.1.1 = tenant).map fun row => (row.1.2, row.2)
  value := (batch.value.filter fun row => row.1.1 = tenant).map fun row => (row.1.2, row.2)

/-- `per_tenant(batch)`. -/
def perTenant (batch : Batch) : List (String × Part RequestId) :=
  (batch.tenants.insertionSort (· ≤ ·)).map fun tenant => (tenant, batch.part ids tenant)

/-! ## Storage -/

/-- `llm_usage_minutes`, `value_usage_minutes` and `usage_flush_batches`. -/
structure UsageStore (RequestId : Type u) extends Rows where
  claimed : List RequestId := []

/-- `usage_flush(tenant_id, batch_id, llm_rows, value_rows)`, where `off` says that the settings
of the tenant switch metering off. -/
def UsageStore.usageFlush (store : UsageStore RequestId) (tenant : String)
    (part : Part RequestId) (off : Bool) : Bool × UsageStore RequestId :=
  let llmRows := if off then [] else part.llm
  let valueRows := if off then [] else part.value
  if part.batchId ∈ store.claimed then (false, store)
  else
    (true,
      { llm := Tally.addAll store.llm (llmRows.map fun row => ((tenant, row.1), row.2))
        value := Tally.addAll store.value (valueRows.map fun row => ((tenant, row.1), row.2))
        claimed := part.batchId :: store.claimed })

/-! ## The aggregator -/

/-- `MAX_PENDING_BATCHES`. -/
def maxPendingBatches : Nat := 20

/-- `UsageAggregator`. -/
structure UsageAggregator extends Rows where
  pending : List Batch := []
  droppedRows : Nat := 0

/-- Whether `_filter` keeps the rows of a tenant; `none` when `allow_tenants` raised. -/
def meters (allowed : Option (List String)) (tenant : String) : Bool :=
  match allowed with
  | none => true
  | some allowed => decide (tenant ∈ unattributed :: allowed)

/-- Where the flush of the service is: `inLoop` tells a flush of the loop from the last flush of
`stop()`. -/
inductive Flush
  /-- No loop and no flush. -/
  | idle
  /-- The loop is in its `sleep`. -/
  | sleeping
  /-- At the `await` on `allow_tenants`. -/
  | filtering (inLoop : Bool) (drained : Batch)
  /-- At the `await` on `post` for the first pending batch. -/
  | posting (inLoop : Bool)

/-- What the accounts are compared with: the calls and records, each as a row of its own, which
batches left the pending list, which rows were filtered out. -/
structure History where
  recorded : Rows := {}
  dropped : List Batch := []
  delivered : List Batch := []
  switchedOff : List Rows := []

/-- The aggregator, storage and what is between them. -/
structure World (RequestId : Type u) where
  aggregator : UsageAggregator := {}
  store : UsageStore RequestId := {}
  flush : Flush := .idle
  /-- The next `uuid4`. -/
  nextBatchId : Nat := 0
  /-- The batches whose requests were sent. -/
  posted : List Batch := []
  history : History := {}

namespace World

/-- The flush is over. -/
def leave (inLoop : Bool) (world : World RequestId) : World RequestId :=
  { world with flush := if inLoop then .sleeping else .idle }

/-- `while self._pending: await self._post(…)` up to the `await`. -/
def post (inLoop : Bool) (world : World RequestId) : World RequestId :=
  match world.aggregator.pending with
  | [] => world.leave inLoop
  | batch :: _ => { world with flush := .posting inLoop, posted := batch :: world.posted }

/-- `while len(self._pending) > MAX_PENDING_BATCHES: …`. -/
def cap (world : World RequestId) : World RequestId :=
  let pending := world.aggregator.pending
  let excess := pending.length - maxPendingBatches
  { world with
    aggregator :=
      { world.aggregator with
        pending := pending.drop excess
        droppedRows :=
          world.aggregator.droppedRows + ((pending.take excess).map fun lost => lost.size).sum }
    history := { world.history with dropped := world.history.dropped ++ pending.take excess } }

/-- `if len(drained): self._pending.append(drained)`. -/
def queue (world : World RequestId) (drained : Batch) : World RequestId :=
  if drained.size = 0 then world
  else
    { world with
      aggregator := { world.aggregator with pending := world.aggregator.pending ++ [drained] } }

/-- `_drain()`, where the totals are not both empty: the batch and what it leaves. -/
def drain (world : World RequestId) : Batch × World RequestId :=
  ({ toRows := world.aggregator.toRows, batchId := world.nextBatchId },
    { world with
      aggregator := { world.aggregator with toRows := {} }
      nextBatchId := world.nextBatchId + 1 })

/-- `flush()` up to its first `await`; `filters` when there is an `allow_tenants`. -/
def beginFlush (filters inLoop : Bool) (world : World RequestId) : World RequestId :=
  if world.aggregator.size = 0 then world.cap.post inLoop
  else
    let (drained, after) := world.drain
    if filters then { after with flush := .filtering inLoop drained }
    else (after.queue drained).cap.post inLoop

/-- The rest of `_filter`, and `flush()` up to its next `await`. -/
def filtered (inLoop : Bool) (drained : Batch) (allowed : Option (List String))
    (world : World RequestId) : World RequestId :=
  let rest := { drained with toRows := drained.restrict (meters allowed) }
  let off := drained.restrict fun tenant => !meters allowed tenant
  let noted : World RequestId :=
    { world with history := { world.history with switchedOff := off :: world.history.switchedOff } }
  (noted.queue rest).cap.post inLoop

end World

/-! ## Its steps -/

/-- What can happen. -/
inductive UsageAction
  | addModelCall (now : Int) (call : ModelCall)
  | addValue (now : Int) (record : ValueRecord)
  | start
  /-- A flush begins: the loop's when it sleeps, and else the last one of `stop()`. -/
  | flush
  /-- `allow_tenants` returns or raises. -/
  | filtered (allowed : Option (List String))
  /-- A request with a tenant's part of a batch arrives; `off` when the settings of the tenant
  switch metering off. -/
  | arrives (batchId : Nat) (tenant : String) (off : Bool)
  | postReturns
  | postRaises
  /-- `stop()` cancels the loop. -/
  | cancel

/-- One step. -/
def World.step (filters : Bool) : Step (World RequestId) UsageAction
  | world, .addModelCall now call =>
    some
      { world with
        aggregator :=
          { world.aggregator with toRows := world.aggregator.addModelCall now call }
        history :=
          { world.history with recorded := world.history.recorded.noteModelCall now call } }
  | world, .addValue now record =>
    some
      { world with
        aggregator := { world.aggregator with toRows := world.aggregator.addValue now record }
        history := { world.history with recorded := world.history.recorded.noteValue now record } }
  | world, .start =>
    match world.flush with
    | .idle => some { world with flush := .sleeping }
    | _ => some world
  | world, .flush =>
    match world.flush with
    | .sleeping => some (world.beginFlush filters true)
    | .idle => some (world.beginFlush filters false)
    | _ => none
  | world, .filtered allowed =>
    match world.flush with
    | .filtering inLoop drained => some (world.filtered inLoop drained allowed)
    | _ => none
  | world, .arrives batchId tenant off =>
    match world.posted.find? fun batch => batch.batchId = batchId with
    | none => none
    | some batch =>
      ((perTenant ids batch).lookup tenant).map fun part =>
        { world with store := (world.store.usageFlush tenant part off).2 }
  | world, .postReturns =>
    match world.flush, world.aggregator.pending with
    | .posting inLoop, batch :: rest =>
      if ∀ request ∈ perTenant ids batch, request.2.batchId ∈ world.store.claimed then
        some
          (World.post inLoop
            { world with
              aggregator := { world.aggregator with pending := rest }
              history :=
                { world.history with delivered := batch :: world.history.delivered } })
      else none
    | _, _ => none
  | world, .postRaises =>
    match world.flush with
    | .posting inLoop => some (world.leave inLoop)
    | _ => none
  | world, .cancel =>
    match world.flush with
    | .sleeping | .filtering true _ | .posting true => some { world with flush := .idle }
    | _ => none

end Caura.Usage
