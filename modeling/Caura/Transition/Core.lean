import Mathlib.Logic.Basic

/-!
# Labelled partial transitions

A system is an option-valued step on states, labelled by events.  An event
that is not enabled gives `none`, and failure is never totalized: a run is the
left-to-right composition of its steps, defined exactly when all of them are.

The invariant rules come in two forms.  `invariant_of_run` needs a property
that every step preserves.  `invariant_of_guardedRun` needs preservation only
for the steps that meet a condition on the state before them, and concludes
for the runs all of whose steps meet it.
-/

namespace Caura.Transition

universe u v

/-- A labelled partial transition. -/
abbrev Step (σ : Type u) (ε : Type v) := σ → ε → Option σ

variable {σ : Type u} {ε : Type v}

/-- Execute events from left to right; an event that is not enabled fails the
run. -/
def run (step : Step σ ε) : σ → List ε → Option σ
  | state, [] => some state
  | state, event :: events => (step state event).bind fun next => run step next events

@[simp]
theorem run_nil (step : Step σ ε) (state : σ) : run step state [] = some state :=
  rfl

theorem run_cons (step : Step σ ε) (state : σ) (event : ε) (events : List ε) :
    run step state (event :: events) = (step state event).bind fun next => run step next events :=
  rfl

theorem run_cons_eq_some_iff {step : Step σ ε} {source target : σ} {event : ε} {events : List ε} :
    run step source (event :: events) = some target ↔ ∃ middle, step source event = some middle ∧
        run step middle events = some target :=
  Option.bind_eq_some_iff

theorem run_append_eq_some_iff {step : Step σ ε} {source target : σ} {events others : List ε} :
    run step source (events ++ others) = some target ↔
      ∃ middle, run step source events = some middle ∧ run step middle others = some target := by
  induction events generalizing source with
  | nil => simp
  | cons event events ih =>
    rw [List.cons_append, run_cons, run_cons]
    simp only [ih, Option.bind_eq_some_iff]
    constructor
    · rintro ⟨next, stepEq, middle, runEq, rest⟩
      exact ⟨middle, ⟨next, stepEq, runEq⟩, rest⟩
    · rintro ⟨middle, ⟨next, stepEq, runEq⟩, rest⟩
      exact ⟨next, stepEq, middle, runEq, rest⟩

variable {step : Step σ ε} {events : List ε} {source target middle : σ} {Inv : σ → Prop}

/-! ## What a run ends with can be computed -/

instance decidableExistsEqSome {α : Type u} {found : Option α} {P : α → Prop} [DecidablePred P] :
    Decidable (∃ value, found = some value ∧ P value) :=
  inferInstanceAs (Decidable (∃ value ∈ found, P value))

instance decidableForallEqSome {α : Type u} {found : Option α} {P : α → Prop} [DecidablePred P] :
    Decidable (∀ value, found = some value → P value) :=
  inferInstanceAs (Decidable (∀ value ∈ found, P value))

/-! ## Runs whose steps meet a condition -/

/-- Every step of the run from `source` meets `Guard` on the state it leaves. -/
def GuardedRun (step : Step σ ε) (Guard : σ → ε → Prop) : σ → List ε → Prop
  | _, [] => True
  | source, event :: events =>
    Guard source event ∧ ∀ middle, step source event = some middle →
        GuardedRun step Guard middle events

instance decidableGuardedRun {step : Step σ ε} {Guard : σ → ε → Prop}
    [∀ state event, Decidable (Guard state event)] :
    ∀ (source : σ) (events : List ε), Decidable (GuardedRun step Guard source events)
  | _, [] => isTrue trivial
  | source, event :: events =>
    match stepEq : step source event with
    | none => decidable_of_iff (Guard source event) (by simp [GuardedRun, stepEq])
    | some middle =>
      have rest : Decidable (GuardedRun step Guard middle events) :=
        decidableGuardedRun middle events
      decidable_of_iff
        (Guard source event ∧ GuardedRun step Guard middle events)
        (by simp [GuardedRun, stepEq])

variable {Guard Known Other : σ → ε → Prop}

/-- A condition that the events of a run meet in every state. -/
theorem guardedRun_of_forall (meets : ∀ state, ∀ event ∈ events, Guard state event) (source : σ) :
    GuardedRun step Guard source events := by
  induction events generalizing source with
  | nil => exact trivial
  | cons event events ih =>
    refine ⟨meets source event (.head _), fun middle _ => ih ?_ middle⟩
    exact fun state other otherMem => meets state other (.tail _ otherMem)

/-- Conditions that agree on the steps that meet a third agree on the runs that do. -/
theorem guardedRun_congr_of_guardedRun
    (agree : ∀ state event, Known state event → (Guard state event ↔ Other state event))
    (known : GuardedRun step Known source events) :
    GuardedRun step Guard source events ↔ GuardedRun step Other source events := by
  induction events generalizing source with
  | nil => exact .rfl
  | cons event events ih =>
    exact and_congr (agree source event known.1)
      (forall_congr' fun middle => imp_congr_right fun stepEq => ih (known.2 middle stepEq))

/-- Conditions that agree on every step agree on every run. -/
theorem guardedRun_congr (agree : ∀ state event, Guard state event ↔ Other state event)
    (source : σ) (events : List ε) :
    GuardedRun step Guard source events ↔ GuardedRun step Other source events :=
  guardedRun_congr_of_guardedRun (fun state event _ => agree state event)
    (guardedRun_of_forall (fun _ _ _ => trivial) source)

section

variable
  (preserved : ∀ source event target, Inv source → Guard source event →
    step source event = some target → Inv target)

include preserved

/-- A property preserved by the steps that meet `Guard` holds at the end of
every run all of whose steps meet it. -/
theorem invariant_of_guardedRun (start : Inv source) (guarded : GuardedRun step Guard source events)
    (runEq : run step source events = some target) :
    Inv target := by
  induction events generalizing source with
  | nil =>
    cases runEq
    exact start
  | cons event events ih =>
    rcases run_cons_eq_some_iff.mp runEq with
      ⟨middle, first, rest⟩
    exact ih (preserved source event middle start guarded.1 first) (guarded.2 middle first) rest

omit preserved in
/-- A property that every step preserves holds at the end of every run. -/
theorem invariant_of_run
    (preserved : ∀ source event target, Inv source → step source event = some target → Inv target)
    (start : Inv source) (runEq : run step source events = some target) : Inv target :=
  invariant_of_guardedRun (fun source event target inv _ => preserved source event target inv) start
    (guardedRun_of_forall (fun _ _ _ => trivial) source) runEq

/-- What the steps that meet `Guard` from states with an invariant meet, every step of a run
does all of whose steps meet `Guard`. -/
theorem guardedRun_of_invariant
    (meets : ∀ source event, Inv source → Guard source event → Other source event)
    (start : Inv source) (guarded : GuardedRun step Guard source events) :
    GuardedRun step Other source events := by
  induction events generalizing source with
  | nil => exact trivial
  | cons event events ih =>
    refine ⟨meets source event start guarded.1, fun middle stepEq => ?_⟩
    exact ih (preserved source event middle start guarded.1 stepEq) (guarded.2 middle stepEq)

end

/-- A measure that no step lowers, and that a step keeps exactly when it meets `Guard`, is at the
end of a run what it was exactly when all steps meet it. -/
theorem measure_eq_iff_guardedRun {measure : σ → Int}
    (rises : ∀ source, ∀ event ∈ events, ∀ target, step source event = some target →
      measure source ≤ measure target ∧ (measure target = measure source ↔ Guard source event))
    (runEq : run step source events = some target) : measure source ≤ measure target ∧
      (measure target = measure source ↔ GuardedRun step Guard source events) := by
  induction events generalizing source with
  | nil =>
    cases runEq
    exact ⟨Int.le_refl _, iff_of_true rfl trivial⟩
  | cons event events ih =>
    obtain ⟨middle, first, rest⟩ :=
      run_cons_eq_some_iff.mp runEq
    obtain ⟨risesFirst, keepsFirst⟩ := rises source event (.head _) middle first
    obtain ⟨risesRest, keepsRest⟩ :=
      ih (fun source other isOther => rises source other (.tail _ isOther)) rest
    refine ⟨Int.le_trans risesFirst risesRest, fun equal => ?_, fun guarded => ?_⟩
    · refine ⟨keepsFirst.mp (by omega), fun other isOther => ?_⟩
      cases Option.some.inj (first.symm.trans isOther)
      exact keepsRest.mp (by omega)
    · exact (keepsRest.mpr (guarded.2 middle first)).trans (keepsFirst.mpr guarded.1)

variable {before after : List ε}

/-- A beginning of a run all of whose steps meet a condition is such a run. -/
theorem guardedRun_of_append_left (guarded : GuardedRun step Guard source (before ++ after)) :
    GuardedRun step Guard source before := by
  induction before generalizing source with
  | nil => exact trivial
  | cons first before ih => exact ⟨guarded.1, fun middle stepEq => ih (guarded.2 middle stepEq)⟩

/-- What remains of a run all of whose steps meet a condition is such a run. -/
theorem guardedRun_of_append (guarded : GuardedRun step Guard source (before ++ after))
    (runEq : run step source before = some middle) : GuardedRun step Guard middle after := by
  induction before generalizing source with
  | nil =>
    cases runEq
    exact guarded
  | cons first before ih =>
    obtain ⟨second, stepEq, rest⟩ := run_cons_eq_some_iff.mp runEq
    exact ih (guarded.2 second stepEq) rest

/-- A run whose steps meet two conditions. -/
theorem GuardedRun.and (guarded : GuardedRun step Guard source events)
    (others : GuardedRun step Other source events) :
    GuardedRun step (fun state event => Guard state event ∧ Other state event) source events := by
  induction events generalizing source with
  | nil => exact trivial
  | cons event events ih =>
    exact ⟨⟨guarded.1, others.1⟩, fun middle stepEq =>
      ih (guarded.2 middle stepEq) (others.2 middle stepEq)⟩

end Caura.Transition
