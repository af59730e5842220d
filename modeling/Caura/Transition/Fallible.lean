import Mathlib.Data.List.Forall2

/-!
# Loops that may fail

A loop whose rounds may raise is a fold or a map in `Except`.  It succeeds
exactly when all its rounds do: what each round preserves holds at the end of
the fold, and the results of the map are those of its rounds.
-/

namespace Caura.Transition

universe u v w

variable {ε : Type u} {α : Type v} {β γ : Type w}

theorem bind_eq_ok_iff {first : Except ε β} {next : β → Except ε γ} {result : γ} :
    (first >>= next) = .ok result ↔ ∃ value, first = .ok value ∧ next value = .ok result := by
  cases first with
  | error error =>
    constructor
    · intro failed
      cases failed
    · rintro ⟨_, failed, _⟩
      cases failed
  | ok value =>
    constructor
    · intro rest
      exact ⟨value, rfl, rest⟩
    · rintro ⟨_, succeeded, rest⟩
      cases succeeded
      exact rest

variable {inputs : List α}

/-- A property that every round preserves holds at the end of a fold that
succeeds. -/
theorem invariant_of_foldlM {round : β → α → Except ε β} {Inv : β → Prop}
    (preserved : ∀ state input next, input ∈ inputs → Inv state →
      round state input = .ok next → Inv next) {source target : β} (start : Inv source)
    (folded : inputs.foldlM round source = .ok target) : Inv target := by
  induction inputs generalizing source with
  | nil =>
    cases folded
    exact start
  | cons input inputs ih =>
    rcases bind_eq_ok_iff.mp folded with ⟨middle, first, rest⟩
    refine ih ?_ (preserved _ _ _ List.mem_cons_self start first) rest
    intro state other next otherMem
    exact preserved state other next (List.mem_cons_of_mem _ otherMem)

/-- The results of a map that succeeds are those of its rounds. -/
theorem forall₂_of_mapM {round : α → Except ε β} {results : List β}
    (mapped : inputs.mapM round = .ok results) :
    List.Forall₂ (fun input result => round input = .ok result) inputs results := by
  induction inputs generalizing results with
  | nil =>
    cases mapped
    exact List.Forall₂.nil
  | cons input inputs ih =>
    rw [List.mapM_cons] at mapped
    rcases bind_eq_ok_iff.mp mapped with ⟨result, first, mapped⟩
    rcases bind_eq_ok_iff.mp mapped with ⟨others, rest, done⟩
    cases done
    exact List.Forall₂.cons first (ih rest)

end Caura.Transition
