import Caura.Transition.Threads

/-!
# Threads with a lock

The threads of a system share a lock of the store.  If a thread takes the lock only while it
is free, and no thread frees it but the one that holds it, then at most one thread holds it at
a time.

What a thread knows while it holds the lock has to survive only the actions of the threads that
do not hold it.
-/

namespace Caura.Transition

universe u v w x

variable {σ : Type u} {τ : Type v} {ρ : Type w} {ι : Type x}

section Definitions

variable (locked : σ → Bool) (holds : τ → Bool) (Assert : τ → σ → Prop)

/-- At most one thread holds the lock, which is then taken, and each thread has its assertion
about the store. -/
structure Pool.Locked (pool : Pool σ τ) : Prop where
  taken : ∀ pid thread, pool.threads pid = some thread → holds thread = true →
    locked pool.store = true
  alone : ∀ pid other thread bystander, pool.threads pid = some thread →
    pool.threads other = some bystander → holds thread = true → holds bystander = true →
      pid = other
  threads : ∀ pid thread, pool.threads pid = some thread → Assert thread pool.store

theorem Pool.Locked.idle (store : σ) : Pool.Locked locked holds Assert ⟨store, fun _ => none⟩ :=
  ⟨nofun, nofun, nofun⟩

/-- What there is to show of each action. -/
structure ThreadSystem.LockSafe (system : ThreadSystem σ τ ρ ι) : Prop where
  start : ∀ request store, holds (system.init request) = false ∧
    Assert (system.init request) store
  acquired : ∀ store thread input after next, system.act store thread input = some (after, next) →
    holds thread = false → holds next = true → locked store = false ∧ locked after = true
  held : ∀ store thread input after next, system.act store thread input = some (after, next) →
    holds thread = true → locked store = true → holds next = true → locked after = true
  kept : ∀ store thread input after next, system.act store thread input = some (after, next) →
    holds thread = false → locked store = true → locked after = true
  own : ∀ store thread input after next, system.act store thread input = some (after, next) →
    Assert thread store → Assert next after
  others : ∀ store thread input after next bystander,
    system.act store thread input = some (after, next) → Assert thread store →
      Assert bystander store → (holds thread = true → holds bystander = false) →
        Assert bystander after

end Definitions

/-- What an action does to the lock, and to the hold of its thread: it leaves the lock and gains no
hold, takes the lock while it is free or its own, or gives its own back. -/
inductive LockChange (locked holds lockedAfter holdsAfter : Bool) : Prop
  | keeps (sameLock : lockedAfter = locked) (noMore : holdsAfter = true → holds = true)
  | takes (isFree : locked = false ∨ holds = true) (isLocked : lockedAfter = true)
  | frees (remains : lockedAfter = (locked && !holds)) (notHolder : holdsAfter = false)

variable {locked : σ → Bool} {holds : τ → Bool} {Assert : τ → σ → Prop}
  {system : ThreadSystem σ τ ρ ι} {pool : Pool σ τ} {pid : Nat}

/-- Actions that change the lock in one of these ways are safe as far as the lock goes. -/
theorem ThreadSystem.lockSafe_of_changes
    (start : ∀ request store, holds (system.init request) = false ∧
      Assert (system.init request) store)
    (changes : ∀ store thread input after next, system.act store thread input = some (after, next) →
        LockChange (locked store) (holds thread) (locked after) (holds next))
    (own : ∀ store thread input after next, system.act store thread input = some (after, next) →
      Assert thread store → Assert next after)
    (others : ∀ store thread input after next bystander,
      system.act store thread input = some (after, next) → Assert thread store →
        Assert bystander store → (holds thread = true → holds bystander = false) →
          Assert bystander after) :
    system.LockSafe locked holds Assert where
  start := start
  acquired store thread input after next acted notHolder takes := by
    cases changes store thread input after next acted with
    | keeps _ noMore => cases notHolder.symm.trans (noMore takes)
    | takes isFree isLocked =>
      exact ⟨isFree.resolve_right (Bool.eq_false_iff.mp notHolder), isLocked⟩
    | frees _ gaveBack => cases gaveBack.symm.trans takes
  held store thread input after next acted _ isTaken isHolder := by
    cases changes store thread input after next acted with
    | keeps sameLock _ => exact sameLock.trans isTaken
    | takes _ isLocked => exact isLocked
    | frees _ gaveBack => cases gaveBack.symm.trans isHolder
  kept store thread input after next acted notHolder isTaken := by
    cases changes store thread input after next acted with
    | keeps sameLock _ => exact sameLock.trans isTaken
    | takes _ isLocked => exact isLocked
    | frees remains _ =>
      rw [remains, isTaken, notHolder]
      rfl
  own := own
  others := others

theorem Pool.Locked.start (safe : system.LockSafe locked holds Assert)
    (sound : pool.Locked locked holds Assert) (request : ρ) :
    (pool.put pid pool.store (system.init request)).Locked locked holds Assert := by
  -- The new thread does not hold the lock, so the claims about holders are about the others.
  have old (other : Nat) (thread : τ) (isHolder : holds thread = true)
      (isThread : (pool.put pid pool.store (system.init request)).threads other = some thread) :
      pool.threads other = some thread := by
    rcases Pool.put_threads_eq_some.mp isThread with ⟨rfl, rfl⟩ | ⟨isNew, isThread⟩
    · cases (safe.start request pool.store).1.symm.trans isHolder
    · exact isThread
  refine ⟨fun other thread isThread isHolder => ?_,
    fun other third thread bystander isThread isBystander isHolder isToo => ?_,
    fun other thread isThread => ?_⟩
  · exact sound.taken other thread (old other thread isHolder isThread) isHolder
  · exact sound.alone other third thread bystander (old other thread isHolder isThread)
      (old third bystander isToo isBystander) isHolder isToo
  · rcases Pool.put_threads_eq_some.mp isThread with ⟨rfl, rfl⟩ | ⟨isNew, isThread⟩
    · exact (safe.start request pool.store).2
    · exact sound.threads other thread isThread

section Action

variable {thread next : τ} {input : ι} {after : σ}

section

variable (safe : system.LockSafe locked holds Assert) (sound : pool.Locked locked holds Assert)
  (isThread : pool.threads pid = some thread)
  (acted : system.act pool.store thread input = some (after, next))

include safe sound isThread acted

/-- While another thread holds the lock, an action leaves it taken and does not take it. -/
theorem Pool.Locked.bystander {other : Nat} {bystander : τ} (different : other ≠ pid)
    (isBystander : pool.threads other = some bystander) (isHolder : holds bystander = true) :
    holds thread = false ∧ holds next = false ∧ locked after = true := by
  have isTaken := sound.taken other bystander isBystander isHolder
  have notHolder : holds thread = false := by
    refine Bool.eq_false_iff.mpr fun isToo => different ?_
    exact sound.alone other pid bystander thread isBystander isThread isHolder isToo
  refine ⟨notHolder, Bool.eq_false_iff.mpr fun takes => ?_,
    safe.kept _ _ _ _ _ acted notHolder isTaken⟩
  cases isTaken.symm.trans (safe.acquired _ _ _ _ _ acted notHolder takes).1

theorem Pool.Locked.advance : (pool.put pid after next).Locked locked holds Assert := by
  refine ⟨fun other found isFound isHolder => ?_,
    fun other third found bystander isFound isBystander isHolder isToo => ?_,
    fun other found isFound => ?_⟩
  · rcases Pool.put_threads_eq_some.mp isFound with ⟨rfl, rfl⟩ | ⟨isOwn, isFound⟩
    · cases wasHolder : holds thread with
      | true =>
        exact safe.held _ _ _ _ _ acted wasHolder (sound.taken other thread isThread wasHolder)
          isHolder
      | false => exact (safe.acquired _ _ _ _ _ acted wasHolder isHolder).2
    · exact (sound.bystander safe isThread acted isOwn isFound isHolder).2.2
  · by_cases isOwn : other = pid
    · subst isOwn
      by_cases isSame : third = other
      · exact isSame.symm
      · rw [Pool.put_threads_self] at isFound
        cases isFound
        rw [Pool.put_threads_of_ne isSame] at isBystander
        cases isHolder.symm.trans (sound.bystander safe isThread acted isSame isBystander isToo).2.1
    · rw [Pool.put_threads_of_ne isOwn] at isFound
      rcases Pool.put_threads_eq_some.mp isBystander with ⟨rfl, rfl⟩ | ⟨isSame, isBystander⟩
      · cases isToo.symm.trans (sound.bystander safe isThread acted isOwn isFound isHolder).2.1
      · exact sound.alone other third found bystander isFound isBystander isHolder isToo
  · rcases Pool.put_threads_eq_some.mp isFound with ⟨rfl, rfl⟩ | ⟨isOwn, isFound⟩
    · exact safe.own _ _ _ _ _ acted (sound.threads other thread isThread)
    · refine safe.others _ _ _ _ _ found acted (sound.threads pid thread isThread)
        (sound.threads other found isFound) fun wasHolder => ?_
      refine Bool.eq_false_iff.mpr fun isToo => isOwn ?_
      exact (sound.alone pid other thread found isThread isFound wasHolder isToo).symm

end

end Action

/-- Every step keeps at most one thread at the lock. -/
theorem ThreadSystem.LockSafe.preserved (safe : system.LockSafe locked holds Assert)
    (pool : Pool σ τ) (event : ThreadEvent ρ ι) (target : Pool σ τ)
    (sound : pool.Locked locked holds Assert) (stepEq : system.step pool event = some target) :
    target.Locked locked holds Assert := by
  cases event with
  | start pid request =>
    obtain ⟨_, rfl⟩ := step_start_eq_some_iff.mp stepEq
    exact sound.start safe request
  | advance pid input =>
    obtain ⟨thread, store, next, isThread, acted, rfl⟩ := step_advance_eq_some_iff.mp stepEq
    exact sound.advance safe isThread acted

end Caura.Transition
