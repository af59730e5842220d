import Caura.Transition.Core
import Mathlib.Data.List.Basic

/-!
# The audit event queue

Audit events wait in a bounded queue of the process until a background task drains the queue and
hands the events, a chunk at a time, to the callable that writes them.  The service counts what was
written, what failed and what was interrupted.

A step of the model is what happens between two suspension points: a call of `enqueue`, `start` or
`stop`, or the flusher from one `await` to the next.  What the callable does to a chunk is an input
of the step.  A drain takes all events out of the queue before the first chunk is written, and a
cancellation at one chunk leaves the drain: the events of the chunks behind it are then in no
counter.  Every accepted event is counted exactly as long as that does not happen, in a process
whose chunks are not empty.
-/

namespace Caura.Audit

open Caura.Transition List

universe u

variable {Event : Type u}

/-! ## The service -/

/-- What the constructor of `AuditEventQueue` is given. -/
structure QueueConfig where
  maxQueueSize : Int
  flushThreshold : Int
  chunkSize : Int := 500

variable {config : QueueConfig}

/-- Where the flusher task is. -/
inductive Flusher (Event : Type u)
  /-- `_flusher_task is None`. -/
  | unbound
  /-- The task has returned or was cancelled. -/
  | ended
  /-- Before the test of `while not self._stopping.is_set()`. -/
  | ready
  /-- In the `wait_for` on the wake event. -/
  | waiting
  /-- In `_drain_and_flush`, at the `await` on the callable for the first chunk of `rest`; `final`
  in the drain behind the loop. -/
  | flushing (final : Bool) (rest : List Event)
  deriving DecidableEq

/-- `AuditEventQueue`. -/
structure AuditEventQueue (Event : Type u) where
  queue : List Event := []
  flusher : Flusher Event := .unbound
  stopping : Bool := false
  wake : Bool := false
  droppedCount : Int := 0
  flushedCount : Int := 0
  failedCount : Int := 0
  interruptedCount : Int := 0
  deriving DecidableEq

/-- An exception: whether it is an `Exception`, and its `failed_event_count`, if it has one. -/
structure Raised where
  isException : Bool
  failedEventCount : Option (Option Int) := none

/-- `failed` of the handler for a chunk of the given size. -/
def Raised.failed (exc : Raised) (size : Nat) : Option Int :=
  exc.failedEventCount.getD (if exc.isException then some size else none)

/-- How a call of the flush callable ends. -/
inductive FlushResult
  | returned
  | raised (exc : Raised)

/-- A cancellation, or another exception that is no `Exception`, is raised again. -/
def FlushResult.propagates : FlushResult → Bool
  | .returned => false
  | .raised exc => !exc.isException

namespace AuditEventQueue

/-- `self._queue.full()`; a size of 0 or less is no bound. -/
def full (config : QueueConfig) (state : AuditEventQueue Event) : Bool :=
  decide (0 < config.maxQueueSize ∧ config.maxQueueSize ≤ state.queue.length)

/-- `enqueue(event, silent)`. -/
def enqueue (config : QueueConfig) (state : AuditEventQueue Event) (event : Event)
    (silent : Bool) : Bool × AuditEventQueue Event :=
  if state.full config then
    (false, if silent then state else { state with droppedCount := state.droppedCount + 1 })
  else
    let queued := { state with queue := state.queue ++ [event] }
    (true,
      if config.flushThreshold ≤ queued.queue.length then { queued with wake := true }
      else queued)

/-- `start()`. -/
def start (state : AuditEventQueue Event) : AuditEventQueue Event :=
  match state.flusher with
  | .unbound | .ended => { state with stopping := false, flusher := .ready }
  | _ => state

/-- The signal `stop()` gives the flusher. -/
def stop (state : AuditEventQueue Event) : AuditEventQueue Event :=
  match state.flusher with
  | .unbound => state
  | _ => { state with stopping := true, wake := true }

/-- What follows a drain: the next round of the loop, or the end of the task. -/
def leaveDrain (final : Bool) (state : AuditEventQueue Event) : AuditEventQueue Event :=
  { state with flusher := if final then .ended else .ready }

/-- `_drain_and_flush()` up to its first `await`.  There are no chunks when `chunk_size` is
negative, and `range` raises when it is 0; the loop logs that and goes on. -/
def drainAndFlush (config : QueueConfig) (final : Bool) (state : AuditEventQueue Event) :
    AuditEventQueue Event :=
  let drained := { state with queue := [] }
  if state.queue = [] ∨ config.chunkSize ≤ 0 then drained.leaveDrain final
  else { drained with flusher := .flushing final state.queue }

/-- The counters after a call of the callable for `size` events. -/
def count (size : Nat) (result : FlushResult) (sentinelCount : Int)
    (state : AuditEventQueue Event) : AuditEventQueue Event :=
  match result with
  | .returned => { state with flushedCount := state.flushedCount + size - sentinelCount }
  | .raised exc =>
    match exc.failed size with
    | none => { state with interruptedCount := state.interruptedCount + size }
    | some failed =>
      { state with
        failedCount := state.failedCount + failed
        flushedCount := state.flushedCount + (size - failed) - sentinelCount }

/-- The flusher from the `await` on the callable to its next `await`. -/
def flushChunk (config : QueueConfig) (final : Bool) (rest : List Event) (result : FlushResult)
    (sentinelCount : Int) (state : AuditEventQueue Event) : AuditEventQueue Event :=
  let chunk := rest.take config.chunkSize.toNat
  let later := rest.drop config.chunkSize.toNat
  let counted := state.count chunk.length result sentinelCount
  if result.propagates then { counted with flusher := .ended }
  else if later.isEmpty then counted.leaveDrain final
  else { counted with flusher := .flushing final later }

end AuditEventQueue

/-! ## Its steps -/

/-- What can happen to the service. -/
inductive QueueAction (Event : Type u)
  | enqueue (event : Event) (silent : Bool)
  | start
  /-- The signal of `stop()`. -/
  | stop
  /-- The `finally` of `stop()`. -/
  | unbind
  /-- The flusher tests whether the service is stopping. -/
  | test
  /-- The flusher's wait ends. -/
  | awake
  /-- The flusher is cancelled where it holds no events. -/
  | cancel
  /-- The callable ends; `sentinelCount` is its `_sentinel_count` then. -/
  | flushed (result : FlushResult) (sentinelCount : Int)

/-- The sentinel count a call of the callable leaves. -/
def QueueAction.sentinelCount : QueueAction Event → Int
  | .flushed _ sentinelCount => sentinelCount
  | _ => 0

/-- One step of the service. -/
def AuditEventQueue.act (config : QueueConfig) (state : AuditEventQueue Event) :
    QueueAction Event → Option (AuditEventQueue Event)
  | .enqueue event silent => some (state.enqueue config event silent).2
  | .start => some state.start
  | .stop => some state.stop
  | .unbind =>
    match state.flusher with
    | .ended => some { state with flusher := .unbound }
    | _ => none
  | .test =>
    match state.flusher with
    | .ready =>
      some (if state.stopping then state.drainAndFlush config true
        else { state with flusher := .waiting })
    | _ => none
  | .awake =>
    match state.flusher with
    | .waiting => some (AuditEventQueue.drainAndFlush config false { state with wake := false })
    | _ => none
  | .cancel =>
    match state.flusher with
    | .ready | .waiting => some { state with flusher := .ended }
    | _ => none
  | .flushed result sentinelCount =>
    match state.flusher with
    | .flushing final rest => some (state.flushChunk config final rest result sentinelCount)
    | _ => none

/-- The service, and the number of events `enqueue` has accepted. -/
structure Ledger (Event : Type u) where
  service : AuditEventQueue Event := {}
  accepted : Nat := 0

/-- Whether a step is a call of `enqueue` that returns `True`. -/
def AuditEventQueue.accepts (config : QueueConfig) (state : AuditEventQueue Event) :
    QueueAction Event → Bool
  | .enqueue event silent => (state.enqueue config event silent).1
  | _ => false

/-- A step of the service, with its acceptance noted. -/
def Ledger.step (config : QueueConfig) : Step (Ledger Event) (QueueAction Event) :=
  fun ledger action =>
    (ledger.service.act config action).map fun after =>
      { service := after
        accepted := ledger.accepted + (ledger.service.accepts config action).toNat }

/-! ## What is counted -/

namespace AuditEventQueue

/-- The events of the drain in progress that are in no counter yet. -/
def inProgress (state : AuditEventQueue Event) : List Event :=
  match state.flusher with
  | .flushing _ rest => rest
  | _ => []

/-- The events in the queue, in the counters and in the drain in progress. -/
def accounted (state : AuditEventQueue Event) : Int :=
  state.queue.length + state.flushedCount + state.failedCount + state.interruptedCount +
    state.inProgress.length

/-- The step takes no event out of the account: the queue is drained into chunks that are not
empty, and a chunk at which the flusher is cancelled is the last of its drain. -/
def LosesNone (config : QueueConfig) (state : AuditEventQueue Event) : QueueAction Event → Prop
  | .test => state.stopping = true → 0 < config.chunkSize ∨ state.queue = []
  | .awake => 0 < config.chunkSize ∨ state.queue = []
  | .flushed result _ =>
    result.propagates = true → state.inProgress.length ≤ config.chunkSize.toNat
  | _ => True

instance decidableLosesNone (config : QueueConfig) (state : AuditEventQueue Event) (action) :
    Decidable (state.LosesNone config action) := by
  cases action <;> dsimp only [AuditEventQueue.LosesNone] <;> infer_instance

/-- How many events a drain or a cancellation takes out of the account. -/
def lost (config : QueueConfig) (state : AuditEventQueue Event) : QueueAction Event → Nat
  | .test => if state.stopping ∧ config.chunkSize ≤ 0 then state.queue.length else 0
  | .awake => if config.chunkSize ≤ 0 then state.queue.length else 0
  | .flushed result _ =>
    if result.propagates then (state.inProgress.drop config.chunkSize.toNat).length else 0
  | _ => 0

theorem lost_eq_zero_iff (config : QueueConfig) (state : AuditEventQueue Event)
    (action : QueueAction Event) :
    state.lost config action = 0 ↔ state.LosesNone config action := by
  cases action with
  | test =>
    rw [lost, LosesNone, ← length_eq_zero_iff]
    cases state.stopping with
    | false => exact iff_of_true (if_neg (fun both => nomatch both.1)) nofun
    | true =>
      simp only [true_and, true_imp_iff]
      split <;> omega
  | awake =>
    rw [lost, LosesNone, ← length_eq_zero_iff]
    split <;> omega
  | flushed result sentinelCount =>
    rw [lost, LosesNone, length_drop]
    cases result.propagates with
    | false => exact iff_of_true rfl nofun
    | true =>
      simp only [if_true, true_imp_iff]
      omega
  | enqueue event silent | start | stop | unbind | cancel => exact iff_of_true rfl trivial

theorem inProgress_leaveDrain (final : Bool) (state : AuditEventQueue Event) :
    (state.leaveDrain final).inProgress = [] := by
  cases final <;> rfl

theorem accounted_enqueue {state : AuditEventQueue Event} {event : Event}
    {silent : Bool} :
    (state.enqueue config event silent).2.accounted =
      state.accounted + (state.enqueue config event silent).1.toNat := by
  unfold enqueue
  split
  · cases silent <;> exact (Int.add_zero _).symm
  · have longer : (state.queue ++ [event]).length = state.queue.length + 1 :=
      length_append
    dsimp only
    split <;> simp only [accounted, inProgress, Bool.toNat_true] <;> omega

theorem accounted_drainAndFlush {final : Bool}
    {state : AuditEventQueue Event} (idle : state.inProgress = []) :
    (state.drainAndFlush config final).accounted +
        (if config.chunkSize ≤ 0 then state.queue.length else 0 : Nat) =
      state.accounted := by
  have before : state.accounted = state.queue.length + state.flushedCount + state.failedCount +
      state.interruptedCount := by
    rw [accounted, idle]
    exact Int.add_zero _
  unfold drainAndFlush
  split
  next noChunks =>
    have after : (leaveDrain final { state with queue := [] }).accounted =
        state.flushedCount + state.failedCount + state.interruptedCount := by
      rw [accounted, inProgress_leaveDrain]
      simp [leaveDrain]
    rw [after, before]
    rcases noChunks with isEmpty | noSize
    · rw [isEmpty, length_nil]
      split <;> omega
    · rw [if_pos noSize]
      omega
  next chunks =>
    rw [before, if_neg (fun noSize => chunks (.inr noSize))]
    simp only [accounted, inProgress, length_nil]
    omega

/-- A call of the callable moves the events of its chunk into the counters. -/
theorem counters_count (size : Nat) (result : FlushResult) (state : AuditEventQueue Event) :
    (state.count size result 0).flushedCount + (state.count size result 0).failedCount +
        (state.count size result 0).interruptedCount =
      state.flushedCount + state.failedCount + state.interruptedCount + size := by
  cases result with
  | returned =>
    simp only [count]
    omega
  | raised exc =>
    rw [count]
    split <;> dsimp only <;> omega

theorem queue_count (size : Nat) (result : FlushResult) (sentinelCount : Int)
    (state : AuditEventQueue Event) :
    (state.count size result sentinelCount).queue = state.queue := by
  cases result with
  | returned => rfl
  | raised exc =>
    rw [count]
    split <;> rfl

variable {state after : AuditEventQueue Event}

theorem accounted_flushChunk (config : QueueConfig) {final : Bool} {rest : List Event}
    (result : FlushResult) (atChunk : state.flusher = .flushing final rest) :
    (state.flushChunk config final rest result 0).accounted +
        (if result.propagates then (rest.drop config.chunkSize.toNat).length else 0 : Nat) =
      state.accounted := by
  have counters := counters_count (rest.take config.chunkSize.toNat).length result state
  have queued := queue_count (rest.take config.chunkSize.toNat).length result 0 state
  have parts : (rest.take config.chunkSize.toNat).length +
      (rest.drop config.chunkSize.toNat).length = rest.length := by
    rw [← length_append, take_append_drop]
  have before : state.accounted = state.queue.length + state.flushedCount + state.failedCount +
      state.interruptedCount + rest.length := by
    rw [accounted, inProgress, atChunk]
  unfold flushChunk
  rw [before]
  dsimp only
  split
  · simp only [accounted, inProgress, queued, length_nil]
    omega
  · split
    next isEmpty =>
      have noLater := length_eq_zero_iff.mpr (isEmpty_iff.mp isEmpty)
      rw [accounted, inProgress_leaveDrain, leaveDrain]
      simp only [queued, length_nil]
      omega
    · simp only [accounted, inProgress, queued]
      omega

/-- What a step does to the account: it enters the event it accepts and takes out those it
loses. -/
theorem accounted_of_act {action : QueueAction Event}
    (noSentinels : action.sentinelCount = 0) (isStep : state.act config action = some after) :
    after.accounted + state.lost config action =
      state.accounted + (state.accepts config action).toNat := by
  revert isStep
  -- One case for each line of the step function that gives a state, in its order.
  fun_cases act config state action <;> intro isStep <;> cases isStep
  · exact (Int.add_zero _).trans accounted_enqueue
  · unfold start
    split <;> simp only [accounted, inProgress, *] <;> rfl
  · unfold stop
    split <;> rfl
  next ended =>
    simp only [accounted, inProgress, ended]
    rfl
  next ready =>
    have idle : state.inProgress = [] := by rw [inProgress, ready]
    cases isStopping : state.stopping with
    | true =>
      simp only [lost, isStopping, true_and]
      exact (accounted_drainAndFlush idle).trans (Int.add_zero _).symm
    | false =>
      simp only [accounted, idle, lost, isStopping]
      rfl
  next waiting =>
    have idle : inProgress { state with wake := false } = [] := by rw [inProgress, waiting]
    exact (accounted_drainAndFlush idle).trans (Int.add_zero _).symm
  next ready =>
    simp only [accounted, inProgress, ready]
    rfl
  next waiting =>
    simp only [accounted, inProgress, waiting]
    rfl
  next sentinelCount _ _ atChunk =>
    have noSentinel : sentinelCount = 0 := noSentinels
    subst noSentinel
    simp only [lost, inProgress, atChunk]
    exact (accounted_flushChunk config _ atChunk).trans (Int.add_zero _).symm

end AuditEventQueue

/-! ## Every accepted event is counted -/

/-- The events accepted are those in the queue, the counters and the drain in progress. -/
def Ledger.Balanced (ledger : Ledger Event) : Prop :=
  (ledger.accepted : Int) =
    ledger.service.queue.length + ledger.service.flushedCount + ledger.service.failedCount +
      ledger.service.interruptedCount + ledger.service.inProgress.length

/-- The number of accepted events that are nowhere. -/
def Ledger.missing (ledger : Ledger Event) : Int :=
  ledger.accepted - ledger.service.accounted

theorem Ledger.missing_of_step {ledger after : Ledger Event}
    {action : QueueAction Event} (noSentinels : action.sentinelCount = 0)
    (isStep : ledger.step config action = some after) :
    after.missing = ledger.missing + ledger.service.lost config action := by
  obtain ⟨service, acts, rfl⟩ := Option.map_eq_some_iff.mp isStep
  have account := AuditEventQueue.accounted_of_act noSentinels acts
  simp only [Ledger.missing]
  omega

/-- With no sentinel events, the accepted events are all accounted for after a run from the empty
queue exactly when no step of it lost any: every drain was cut into chunks that are not empty, and
the flusher was cancelled at no chunk but the last of a drain. -/
theorem accepted_events_counted (config : QueueConfig) {actions : List (QueueAction Event)}
    {target : Ledger Event} (noSentinels : ∀ action ∈ actions, action.sentinelCount = 0)
    (runEq : run (Ledger.step config) {} actions = some target) :
    target.Balanced ↔
      GuardedRun (Ledger.step config) (fun ledger action => ledger.service.LosesNone config action)
        {} actions := by
  have rises : ∀ source, ∀ action ∈ actions, ∀ after,
      Ledger.step config source action = some after →
      source.missing ≤ after.missing ∧
        (after.missing = source.missing ↔ source.service.LosesNone config action) := by
    intro source action isAction after isStep
    have changes := Ledger.missing_of_step (noSentinels action isAction) isStep
    rw [← AuditEventQueue.lost_eq_zero_iff]
    omega
  have starts : Ledger.missing ({} : Ledger Event) = 0 := rfl
  rw [← (measure_eq_iff_guardedRun rises runEq).2, Ledger.missing, Ledger.Balanced,
    AuditEventQueue.accounted]
  omega

/-- A service that writes its events one by one. -/
def oneByOne : QueueConfig where
  maxQueueSize := 10
  flushThreshold := 5
  chunkSize := 1

/-- Three events are accepted and drained; the first is written, the second fails, and the flusher
is cancelled at the third. -/
def cancelledAtLast : List (QueueAction Nat) :=
  [.start, .enqueue 1 false, .test, .enqueue 2 false, .enqueue 3 true, .awake,
    .flushed .returned 0, .flushed (.raised { isException := true }) 0,
    .flushed (.raised { isException := false }) 0]

theorem accepted_events_counted_cancelledAtLast :
    ∃ target, run (Ledger.step oneByOne) {} cancelledAtLast = some target ∧
      target.accepted = 3 ∧ target.Balanced := by
  have noSentinels : ∀ action ∈ cancelledAtLast, action.sentinelCount = 0 := by decide
  refine ⟨_, rfl, rfl, ?_⟩
  exact (accepted_events_counted oneByOne noSentinels rfl).mpr (by decide)

/-- Two events are accepted and drained, and the flusher is cancelled at the first: the second is
neither in the queue nor in a counter. -/
theorem cancelled_drain_loses_event : ∃ target : Ledger Nat, run (Ledger.step oneByOne) {}
          [.start, .enqueue 1 false, .enqueue 2 false, .test, .awake,
            .flushed (.raised { isException := false }) 0] =
        some target ∧
      target.accepted = 2 ∧
      target.service = { flusher := .ended, interruptedCount := 1 } ∧
      ¬target.Balanced := by
  refine ⟨⟨{ flusher := .ended, interruptedCount := 1 }, 2⟩, rfl, rfl, rfl, ?_⟩
  rw [Ledger.Balanced]
  decide

end Caura.Audit
