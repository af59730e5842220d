import Caura.Transition.Core
import Mathlib.Logic.Function.Basic

/-!
# Threads over a shared store

A system of threads takes one action of one thread at a time.  An action reads and writes
the shared store and moves its thread on; a new thread starts at a name that is free.

The rule for such systems is that of interference freedom: an assertion of each thread
about the store holds along every run if each action establishes that of its own thread
and destroys that of no other.
-/

namespace Caura.Transition

universe u v w x

/-- The shared store and the threads by their names. -/
structure Pool (σ : Type u) (τ : Type v) where
  store : σ
  threads : Nat → Option τ

/-- A request starts a thread, or a thread takes its next action with what it is told. -/
inductive ThreadEvent (ρ : Type w) (ι : Type x)
  | start (pid : Nat) (request : ρ)
  | advance (pid : Nat) (input : ι)

/-- How threads start and act. -/
structure ThreadSystem (σ : Type u) (τ : Type v) (ρ : Type w) (ι : Type x) where
  init : ρ → τ
  act : σ → τ → ι → Option (σ × τ)

variable {σ : Type u} {τ : Type v} {ρ : Type w} {ι : Type x} {store : σ}
  {thread bystander : τ}

/-- The pool with a store and a thread at a name. -/
def Pool.put (pool : Pool σ τ) (pid : Nat) (store : σ) (thread : τ) : Pool σ τ :=
  ⟨store, Function.update pool.threads pid (some thread)⟩

@[simp]
theorem Pool.put_store (pool : Pool σ τ) (pid : Nat) (store : σ) (thread : τ) :
    (pool.put pid store thread).store = store :=
  rfl

@[simp]
theorem Pool.put_threads_self (pool : Pool σ τ) (pid : Nat) (store : σ) (thread : τ) :
    (pool.put pid store thread).threads pid = some thread :=
  Function.update_self ..

theorem Pool.put_threads_of_ne {pool : Pool σ τ} {pid other : Nat} (different : other ≠ pid) :
    (pool.put pid store thread).threads other = pool.threads other :=
  Function.update_of_ne different ..

theorem Pool.put_threads_eq_some {pool : Pool σ τ} {pid other : Nat} :
    (pool.put pid store thread).threads other = some bystander ↔
      other = pid ∧ thread = bystander ∨ other ≠ pid ∧ pool.threads other = some bystander := by
  by_cases isOwn : other = pid
  · simp [isOwn]
  · simp [isOwn, Pool.put_threads_of_ne]

/-- One step of the system. -/
def ThreadSystem.step (system : ThreadSystem σ τ ρ ι) : Step (Pool σ τ) (ThreadEvent ρ ι)
  | pool, .start pid request =>
    match pool.threads pid with
    | none => some (pool.put pid pool.store (system.init request))
    | some _ => none
  | pool, .advance pid input =>
    match pool.threads pid with
    | none => none
    | some thread =>
      (system.act pool.store thread input).map fun acted =>
        pool.put pid acted.1 acted.2

variable {system : ThreadSystem σ τ ρ ι} {pool target : Pool σ τ}

theorem ThreadSystem.step_start_eq_some_iff {pid : Nat} {request : ρ} :
    system.step pool (.start pid request) = some target ↔
      pool.threads pid = none ∧ pool.put pid pool.store (system.init request) = target := by
  unfold ThreadSystem.step
  dsimp only
  cases pool.threads pid <;> simp

theorem ThreadSystem.step_advance_eq_some_iff {pid : Nat} {input : ι} :
    system.step pool (.advance pid input) = some target ↔
      ∃ thread store next, pool.threads pid = some thread ∧
        system.act pool.store thread input = some (store, next) ∧
        pool.put pid store next = target := by
  unfold ThreadSystem.step
  dsimp only
  cases pool.threads pid <;> simp

/-! ## Interference freedom -/

/-- The store has its invariant and each thread its assertion about the store. -/
structure Pool.Sound (Inv : σ → Prop) (Assert : τ → σ → Prop) (pool : Pool σ τ) : Prop where
  store : Inv pool.store
  threads : ∀ pid thread, pool.threads pid = some thread → Assert thread pool.store

theorem Pool.Sound.idle {Inv : σ → Prop} {Assert : τ → σ → Prop} (inv : Inv store) :
    Pool.Sound Inv Assert ⟨store, fun _ => none⟩ :=
  ⟨inv, nofun⟩

/-- What there is to show of each action that meets a condition. -/
structure ThreadSystem.InterferenceFree (system : ThreadSystem σ τ ρ ι)
    (Guard : Pool σ τ → ThreadEvent ρ ι → Prop) (Inv : σ → Prop) (Assert : τ → σ → Prop) :
    Prop where
  start : ∀ request store, Inv store → Assert (system.init request) store
  own : ∀ pool pid input thread store next, pool.Sound Inv Assert →
    Guard pool (.advance pid input) → pool.threads pid = some thread →
      system.act pool.store thread input = some (store, next) →
        Inv store ∧ Assert next store
  others : ∀ pool pid input thread store next, pool.Sound Inv Assert →
    Guard pool (.advance pid input) → pool.threads pid = some thread →
      system.act pool.store thread input = some (store, next) →
        ∀ other bystander, other ≠ pid → pool.threads other = some bystander →
          Assert bystander store

variable {Guard : Pool σ τ → ThreadEvent ρ ι → Prop} {Inv : σ → Prop} {Assert : τ → σ → Prop}

/-- A step that meets the condition keeps the assertions. -/
theorem ThreadSystem.InterferenceFree.preserved (free : system.InterferenceFree Guard Inv Assert)
    (pool : Pool σ τ) (event : ThreadEvent ρ ι) (target : Pool σ τ)
    (sound : pool.Sound Inv Assert) (guarded : Guard pool event)
    (stepEq : system.step pool event = some target) : target.Sound Inv Assert := by
  cases event with
  | start pid request =>
    obtain ⟨_, rfl⟩ := step_start_eq_some_iff.mp stepEq
    refine ⟨sound.store, fun other thread isThread => ?_⟩
    rcases Pool.put_threads_eq_some.mp isThread with ⟨rfl, rfl⟩ | ⟨isNew, isThread⟩
    · exact free.start request _ sound.store
    · exact sound.threads other thread isThread
  | advance pid input =>
    obtain ⟨thread, store, next, isThread, acted, rfl⟩ := step_advance_eq_some_iff.mp stepEq
    obtain ⟨inv, own⟩ := free.own pool pid input thread store next sound guarded isThread acted
    refine ⟨inv, fun other bystander isBystander => ?_⟩
    rcases Pool.put_threads_eq_some.mp isBystander with ⟨rfl, rfl⟩ | ⟨isOwn, isBystander⟩
    · exact own
    · exact free.others pool pid input thread store next sound guarded isThread acted other
        bystander isOwn isBystander

/-! ## Runs with few threads -/

/-- The name of the thread that an event is about. -/
def ThreadEvent.pid : ThreadEvent ρ ι → Nat
  | .start pid _ | .advance pid _ => pid

/-- All threads have small names. -/
def Pool.Below (bound : Nat) (pool : Pool σ τ) : Prop :=
  ∀ pid, bound ≤ pid → pool.threads pid = none

theorem Pool.Below.put {bound pid : Nat} (below : pool.Below bound) (isBelow : pid < bound)
    (store : σ) (thread : τ) : (pool.put pid store thread).Below bound := by
  intro other isAbove
  rw [Pool.put_threads_of_ne (by omega)]
  exact below other isAbove

theorem Pool.Below.step {bound : Nat} {event : ThreadEvent ρ ι} (below : pool.Below bound)
    (isBelow : event.pid < bound) (stepEq : system.step pool event = some target) :
    target.Below bound := by
  cases event with
  | start pid request =>
    obtain ⟨_, rfl⟩ := ThreadSystem.step_start_eq_some_iff.mp stepEq
    exact below.put isBelow _ _
  | advance pid input =>
    obtain ⟨_, _, _, _, _, rfl⟩ := ThreadSystem.step_advance_eq_some_iff.mp stepEq
    exact below.put isBelow _ _

theorem Pool.Below.lt {bound pid : Nat} (below : pool.Below bound)
    (isThread : pool.threads pid = some thread) : pid < bound := by
  by_contra isAbove
  cases isThread.symm.trans (below pid (Nat.le_of_not_lt isAbove))

/-- A condition that follows, where all threads have small names, from one that can be checked
on these threads. -/
theorem ThreadSystem.guardedRun_of_few (bound : Nat) {events : List (ThreadEvent ρ ι)}
    {Check : Pool σ τ → ThreadEvent ρ ι → Prop}
    (meets : ∀ pool event, pool.Below bound → Check pool event → Guard pool event)
    (few : ∀ event ∈ events, event.pid < bound) (below : pool.Below bound)
    (checked : GuardedRun system.step Check pool events) :
    GuardedRun system.step Guard pool events := by
  induction events generalizing pool with
  | nil => trivial
  | cons event events ih =>
    rw [List.forall_mem_cons] at few
    refine ⟨meets pool event below checked.1, fun middle stepEq => ?_⟩
    exact ih few.2 (below.step few.1 stepEq) (checked.2 middle stepEq)

/-! ## Threads with marks of their own -/

section Marks

universe y

variable {κ : Type y} {mark : τ → κ}

/-- No two threads have the same mark. -/
def Pool.Distinct (mark : τ → κ) (pool : Pool σ τ) : Prop :=
  ∀ pid other thread bystander, pool.threads pid = some thread →
    pool.threads other = some bystander → mark thread = mark bystander → pid = other

/-- The marks of the threads that some events start. -/
def ThreadSystem.marks (system : ThreadSystem σ τ ρ ι) (mark : τ → κ)
    (events : List (ThreadEvent ρ ι)) : List κ :=
  events.filterMap fun
    | .start _ request => some (mark (system.init request))
    | .advance _ _ => none

/-- Marks are distinct now and those of the threads to come are not taken. -/
structure Pool.Reserves (mark : τ → κ) (marks : List κ) (pool : Pool σ τ) : Prop where
  distinct : pool.Distinct mark
  unused : ∀ pid thread, pool.threads pid = some thread → mark thread ∉ marks

theorem Pool.Distinct.put {pid : Nat} (distinct : pool.Distinct mark)
    (unused : ∀ other bystander, other ≠ pid → pool.threads other = some bystander →
      mark bystander ≠ mark thread) : (pool.put pid store thread).Distinct mark := by
  intro first second firstThread secondThread isFirst isSecond sameMark
  by_cases firstNew : first = pid
  · by_cases secondNew : second = pid
    · exact firstNew.trans secondNew.symm
    · subst firstNew
      rw [Pool.put_threads_self] at isFirst
      rw [Pool.put_threads_of_ne secondNew] at isSecond
      cases isFirst
      exact absurd sameMark.symm (unused second secondThread secondNew isSecond)
  · rw [Pool.put_threads_of_ne firstNew] at isFirst
    rcases Pool.put_threads_eq_some.mp isSecond with ⟨rfl, rfl⟩ | ⟨secondNew, isSecond⟩
    · exact absurd sameMark (unused first firstThread firstNew isFirst)
    · exact distinct first second firstThread secondThread isFirst isSecond sameMark

section

variable
  (keeps : ∀ store thread input next, system.act store thread input = some next →
    mark next.2 = mark thread)

include keeps

variable {events : List (ThreadEvent ρ ι)}

theorem Pool.Reserves.step {event : ThreadEvent ρ ι}
    (nodup : (system.marks mark (event :: events)).Nodup)
    (reserves : pool.Reserves mark (system.marks mark (event :: events)))
    (stepEq : system.step pool event = some target) :
    target.Reserves mark (system.marks mark events) := by
  cases event with
  | start pid request =>
    obtain ⟨_, rfl⟩ := ThreadSystem.step_start_eq_some_iff.mp stepEq
    have isNew := (List.nodup_cons.mp nodup).1
    refine ⟨reserves.distinct.put fun other bystander _ isBystander sameMark => ?_,
      fun other thread isThread => ?_⟩
    · exact reserves.unused other bystander isBystander (sameMark ▸ (.head _))
    · rcases Pool.put_threads_eq_some.mp isThread with ⟨rfl, rfl⟩ | ⟨same, isThread⟩
      · exact isNew
      · exact fun isMem => reserves.unused other thread isThread (.tail _ isMem)
  | advance pid input =>
    obtain ⟨thread, store, next, isThread, acted, rfl⟩ :=
      ThreadSystem.step_advance_eq_some_iff.mp stepEq
    have sameMark : mark next = mark thread := keeps _ _ _ _ acted
    refine ⟨reserves.distinct.put fun other bystander different isBystander same => ?_,
      fun other bystander isBystander => ?_⟩
    · exact different (reserves.distinct _ _ _ _ isBystander isThread (same.trans sameMark))
    · rcases Pool.put_threads_eq_some.mp isBystander with ⟨rfl, rfl⟩ | ⟨isOwn, isBystander⟩
      · rw [sameMark]
        exact reserves.unused other thread isThread
      · exact reserves.unused other bystander isBystander

/-- When the threads of a run start with marks of their own, marks are distinct throughout. -/
theorem ThreadSystem.distinct_of_run (nodup : (system.marks mark events).Nodup)
    (reserves : pool.Reserves mark (system.marks mark events)) :
    GuardedRun system.step (fun pool _ => pool.Distinct mark) pool events ∧
      ∀ target, run system.step pool events = some target → target.Distinct mark := by
  induction events generalizing pool with
  | nil =>
    refine ⟨trivial, fun target runEq => ?_⟩
    have equal : pool = target := by simpa using runEq
    exact equal ▸ reserves.distinct
  | cons event events ih =>
    have rest : (system.marks mark events).Nodup :=
      nodup.sublist ((List.sublist_cons_self event events).filterMap _)
    refine ⟨⟨reserves.distinct, fun middle stepEq =>
      (ih rest (reserves.step keeps nodup stepEq)).1⟩, fun target runEq => ?_⟩
    obtain ⟨middle, stepEq, runEq⟩ :=
      run_cons_eq_some_iff.mp runEq
    exact (ih rest (reserves.step keeps nodup stepEq)).2 target runEq

end

end Marks

end Caura.Transition
