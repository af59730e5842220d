import Mathlib.Algebra.Group.Basic

/-!
# Keyed totals

A tally is a list of rows, each a key with an amount.  `add` enters an amount in place where the
key has a row, and in a new row where it has none, as a dictionary and as an additive upsert do.
`total` is the sum of the amounts under a key, for rows with or without repetitions.
-/

namespace Caura.Value.Tally

universe u v

variable {κ : Type u} {α : Type v} [DecidableEq κ] [AddCommMonoid α]

/-- Enter an amount under a key. -/
def add : List (κ × α) → κ → α → List (κ × α)
  | [], key, amount => [(key, amount)]
  | row :: rows, key, amount =>
    if row.1 = key then (key, row.2 + amount) :: rows else row :: add rows key amount

/-- The sum of the amounts under a key. -/
def total (key : κ) : List (κ × α) → α
  | [] => 0
  | row :: rows => (if row.1 = key then row.2 else 0) + total key rows

/-- Enter rows one after the other. -/
def addAll (rows more : List (κ × α)) : List (κ × α) :=
  more.foldl (fun rows row => add rows row.1 row.2) rows

theorem total_add (key : κ) (rows : List (κ × α)) (entered : κ) (amount : α) :
    total key (add rows entered amount) = total key rows + if entered = key then amount else 0 := by
  induction rows with
  | nil => exact add_comm _ _
  | cons row rows ih =>
    unfold add
    split
    next same =>
      rw [total, total, same]
      split
      · rw [add_right_comm]
      · rw [add_zero]
    · rw [total, ih, total, add_assoc]

theorem total_addAll (key : κ) (rows more : List (κ × α)) :
    total key (addAll rows more) = total key rows + total key more := by
  induction more generalizing rows with
  | nil => exact (add_zero _).symm
  | cons row more ih =>
    have rest := ih (add rows row.1 row.2)
    rw [addAll] at rest
    rw [addAll, List.foldl_cons, rest, total_add, total, add_assoc]

/-- Rows chosen by their keys keep the totals of the keys that are chosen. -/
theorem total_filter (key : κ) (chosen : κ → Bool) (rows : List (κ × α)) :
    total key (rows.filter fun row => chosen row.1) =
      if chosen key then total key rows else 0 := by
  induction rows with
  | nil => exact (ite_self _).symm
  | cons row rows ih =>
    by_cases same : row.1 = key
    · cases isChosen : chosen key with
      | true =>
        rw [List.filter_cons_of_pos (by rw [same, isChosen]), total, ih, isChosen]
        rfl
      | false =>
        rw [List.filter_cons_of_neg (by rw [same, isChosen]; decide), ih, isChosen]
        rfl
    · have skips : total key (row :: rows) = total key rows := by
        rw [total, if_neg same, zero_add]
      rw [skips, ← ih]
      cases isChosen : chosen row.1 with
      | true => rw [List.filter_cons_of_pos (by exact isChosen), total, if_neg same, zero_add]
      | false => rw [List.filter_cons_of_neg (by rw [isChosen]; decide)]

theorem total_eq_zero {key : κ} {rows : List (κ × α)} (absent : ∀ row ∈ rows, row.1 ≠ key) :
    total key rows = 0 := by
  induction rows with
  | nil => rfl
  | cons row rows ih =>
    rw [total, if_neg (absent row (.head _)), zero_add]
    exact ih fun other isOther => absent other (.tail _ isOther)

end Caura.Value.Tally
