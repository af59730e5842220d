import Caura.Transition.Threads
import Mathlib.Data.List.Nodup

/-!
# Calls in a serial order

Each thread of a system carries out one call.  If every action either leaves alone what can be
seen of the store, or is the one in which its call takes effect, then the calls that have taken
effect explain what is seen as a sequence of calls, one after the other.
-/

namespace Caura.Transition

open List

universe u v w x y z s

/-- A call that has taken effect, and what it answers. -/
structure Point (κ : Type y) (β : Type z) where
  pid : Nat
  call : κ
  response : β

section Explains

variable {α : Type s} {κ : Type y} {β : Type z} (apply : α → κ → α × β)

/-- The calls, one after the other, lead from one state to another with their answers. -/
def Explains : α → List (Point κ β) → α → Prop
  | start, [], final => start = final
  | start, point :: points, final =>
    (apply start point.call).2 = point.response ∧ Explains (apply start point.call).1 points final

variable {apply}

theorem explains_append {start final : α} {points others : List (Point κ β)} :
    Explains apply start (points ++ others) final ↔
      ∃ middle, Explains apply start points middle ∧ Explains apply middle others final := by
  induction points generalizing start with
  | nil => exact ⟨fun explains => ⟨start, rfl, explains⟩, fun ⟨_, isStart, explains⟩ =>
    isStart ▸ explains⟩
  | cons point points ih =>
    constructor
    · rintro ⟨answers, explains⟩
      obtain ⟨middle, first, last⟩ := ih.mp explains
      exact ⟨middle, ⟨answers, first⟩, last⟩
    · rintro ⟨middle, ⟨answers, first⟩, last⟩
      exact ⟨answers, ih.mpr ⟨middle, first, last⟩⟩

end Explains

section Serialised

variable {σ : Type u} {τ : Type v} {ρ : Type w} {ι : Type x} {α : Type s} {κ : Type y} {β : Type z}
  (apply : α → κ → α × β) (view : σ → α) (point : τ → Option (κ × β))

/-- An action leaves alone what is seen, or its call takes effect. -/
def TakesEffect (store : σ) (thread : τ) (after : σ) (next : τ) : Prop :=
  (point next = point thread ∧ view after = view store) ∨
    (point thread = none ∧ ∃ call response, point next = some (call, response) ∧
      apply (view store) call = (view after, response))

/-- The calls of a pool in an order that explains what is seen of its store. -/
structure Serialised (start : α) (pool : Pool σ τ) (points : List (Point κ β)) : Prop where
  distinct : (points.map Point.pid).Nodup
  complete : ∀ pid call response, ⟨pid, call, response⟩ ∈ points ↔
    (pool.threads pid).bind point = some (call, response)
  explains : Explains apply start points (view pool.store)

variable {apply view point} {start : α} {pool : Pool σ τ} {points : List (Point κ β)}

section

variable (serialised : Serialised apply view point start pool points)

include serialised

variable {pid : Nat}

theorem Serialised.notMem (noPoint : (pool.threads pid).bind point = none) :
    pid ∉ points.map Point.pid := by
  intro isPid
  obtain ⟨⟨found, call, response⟩, isFound, rfl⟩ := mem_map.mp isPid
  cases noPoint.symm.trans ((serialised.complete found call response).mp isFound)

/-- A thread that moves without an effect leaves the order as it is. -/
theorem Serialised.put_same {after : σ} {next : τ}
    (samePoint : point next = (pool.threads pid).bind point)
    (sameView : view after = view pool.store) :
    Serialised apply view point start (pool.put pid after next) points := by
  refine ⟨serialised.distinct, fun other call response => ?_, sameView ▸ serialised.explains⟩
  rw [serialised.complete]
  by_cases isOwn : other = pid
  · subst isOwn
    rw [Pool.put_threads_self, Option.bind_some, samePoint]
  · rw [Pool.put_threads_of_ne isOwn]

/-- A call that takes effect comes last in the order. -/
theorem Serialised.put_effect {after : σ} {next : τ} {call : κ} {response : β}
    (noPoint : (pool.threads pid).bind point = none)
    (isPoint : point next = some (call, response))
    (applied : apply (view pool.store) call = (view after, response)) :
    Serialised apply view point start (pool.put pid after next)
      (points ++ [⟨pid, call, response⟩]) := by
  refine ⟨?_, fun other otherCall answer => ?_, ?_⟩
  · rw [map_append]
    refine nodup_append.mpr ⟨serialised.distinct, nodup_singleton pid, ?_⟩
    rintro found isFound last isLast rfl
    rw [mem_singleton.mp isLast] at isFound
    exact serialised.notMem noPoint isFound
  · rw [mem_append, serialised.complete]
    by_cases isOwn : other = pid
    · subst isOwn
      rw [noPoint, Pool.put_threads_self, Option.bind_some, isPoint]
      simp [eq_comm]
    · rw [Pool.put_threads_of_ne isOwn]
      simp [isOwn]
  · refine explains_append.mpr ⟨view pool.store, serialised.explains, ?_, ?_⟩
    · exact congrArg Prod.snd applied
    · exact congrArg Prod.fst applied

/-- A step of a system in which every call takes effect at once keeps a serial order. -/
theorem Serialised.step {system : ThreadSystem σ τ ρ ι} {event : ThreadEvent ρ ι}
    {target : Pool σ τ} (starts : ∀ request, point (system.init request) = none)
    (moves : ∀ pid thread input after next, pool.threads pid = some thread →
      system.act pool.store thread input = some (after, next) →
        TakesEffect apply view point pool.store thread after next)
    (stepEq : system.step pool event = some target) :
    ∃ points, Serialised apply view point start target points := by
  cases event with
  | start pid request =>
    obtain ⟨isFree, rfl⟩ := ThreadSystem.step_start_eq_some_iff.mp stepEq
    refine ⟨points, serialised.put_same ?_ rfl⟩
    rw [starts, isFree]
    rfl
  | advance pid input =>
    obtain ⟨thread, after, next, isThread, acted, rfl⟩ :=
      ThreadSystem.step_advance_eq_some_iff.mp stepEq
    have pointOf : (pool.threads pid).bind point = point thread := by
      rw [isThread]
      rfl
    rcases moves pid thread input after next isThread acted with
      ⟨samePoint, sameView⟩ | ⟨noPoint, call, response, isPoint, applied⟩
    · exact ⟨points, serialised.put_same (samePoint.trans pointOf.symm) sameView⟩
    · exact ⟨_, serialised.put_effect (pointOf.trans noPoint) isPoint applied⟩

end

/-- The calls of every run have a serial order. -/
theorem exists_serialised_of_run {system : ThreadSystem σ τ ρ ι} {Inv : Pool σ τ → Prop}
    (preserved : ∀ pool event target, Inv pool → system.step pool event = some target → Inv target)
    (starts : ∀ request, point (system.init request) = none)
    (moves : ∀ pool pid thread input after next, Inv pool → pool.threads pid = some thread →
      system.act pool.store thread input = some (after, next) →
        TakesEffect apply view point pool.store thread after next)
    {store : σ} {events : List (ThreadEvent ρ ι)} {target : Pool σ τ}
    (inv : Inv ⟨store, fun _ => none⟩)
    (runEq : run system.step ⟨store, fun _ => none⟩ events = some target) :
    ∃ points, Serialised apply view point (view store) target points := by
  have first : Serialised apply view point (view store) ⟨store, fun _ => none⟩ [] :=
    ⟨nodup_nil, fun _ _ _ => ⟨nofun, nofun⟩,
      rfl⟩
  have kept : ∀ pool event target,
      (Inv pool ∧ ∃ points, Serialised apply view point (view store) pool points) →
        system.step pool event = some target →
          Inv target ∧ ∃ points, Serialised apply view point (view store) target points := by
    rintro pool event target ⟨sound, points, serialised⟩ stepEq
    refine ⟨preserved pool event target sound stepEq, serialised.step starts ?_ stepEq⟩
    exact fun pid thread input after next => moves pool pid thread input after next sound
  exact (invariant_of_run kept ⟨inv, [], first⟩ runEq).2

end Serialised

end Caura.Transition
