import Caura.Partition.Groups
import Mathlib.Data.Int.CardIntervalMod

/-!
# Balanced parts and a fullest selection

The strides of a list differ in length by at most one.  Of lists in the order of their
lengths, taking each that still fits takes as many as any choice within the budget does:
where one does not fit, no later one does, and a choice can trade any of its lists for the
shortest without growing.
-/

namespace Caura.Partition

open List

universe u

variable {α : Type u}

/-! ## Strides -/

section Stride

variable {count offset : Nat} {items : List α}

theorem length_stride (inRange : offset < count) : (stride count offset items).length =
      items.length / count + if offset < items.length % count then 1 else 0 := by
  have counted : (stride count offset items).length =
      items.length.count fun position => position ≡ offset [MOD count] := by
    rw [stride, length_map, ← countP_eq_length_filter, Nat.count, range_eq_range',
      ← zipIdx_map_snd 0 items, countP_map]
    congr 1
    funext entry
    simp [Nat.ModEq, Nat.mod_eq_of_lt inRange]
  rw [counted, Nat.count_modEq_card _ (Nat.zero_lt_of_lt inRange), Nat.mod_eq_of_lt inRange]

/-- Two strides differ in length by at most one. -/
theorem length_stride_le_succ {other : Nat} (inRange : offset < count)
    (otherInRange : other < count) :
    (stride count offset items).length ≤ (stride count other items).length + 1 := by
  rw [length_stride inRange, length_stride otherInRange]
  split <;> omega

/-- No stride is longer than its share. -/
theorem length_stride_le {limit : Nat} (inRange : offset < count)
    (enough : items.length ≤ count * limit) : (stride count offset items).length ≤ limit := by
  rw [length_stride inRange]
  split
  next short =>
    refine Nat.div_lt_of_lt_mul (Nat.lt_of_le_of_ne enough ?_)
    intro full
    rw [full, Nat.mul_mod_right] at short
    exact Nat.not_lt_zero _ short
  · exact Nat.div_le_of_le_mul enough

/-- Every item is in a stride. -/
theorem exists_mem_stride {item : α} (positive : 0 < count) (itemMem : item ∈ items) :
    ∃ offset < count, item ∈ stride count offset items := by
  obtain ⟨position, found⟩ := mem_iff_getElem?.mp itemMem
  exact ⟨position % count, Nat.mod_lt _ positive, mem_stride_iff.mpr ⟨position, found, rfl⟩⟩

end Stride

/-! ## Selection -/

section Selection

variable {budget used : Nat} {parts : List (List α)}

/-- The lists that do not fit in what the ones taken before leave of the budget. -/
def deferWithin (budget : Nat) : Nat → List (List α) → List (List α)
  | _, [] => []
  | used, part :: parts =>
    if used + part.length > budget then
      part :: deferWithin budget used parts
    else deferWithin budget (used + part.length) parts

theorem selectWithin_append_deferWithin (budget used : Nat) (parts : List (List α)) :
    (selectWithin budget used parts ++ deferWithin budget used parts).Perm parts := by
  induction parts generalizing used with
  | nil => exact List.Perm.refl _
  | cons part parts ih =>
    unfold selectWithin deferWithin
    split
    · exact perm_middle.trans ((ih used).cons part)
    · exact (ih (used + part.length)).cons part

theorem length_flatten_selectWithin (parts : List (List α)) (fits : used ≤ budget) :
    used + (selectWithin budget used parts).flatten.length ≤ budget := by
  induction parts generalizing used with
  | nil => simpa [selectWithin] using fits
  | cons part parts ih =>
    unfold selectWithin
    split
    · exact ih fits
    next isFitting =>
      rw [flatten_cons, length_append, ← Nat.add_assoc]
      exact ih (Nat.le_of_not_lt isFitting)

section

variable (sorted : parts.Pairwise fun first second => first.length ≤ second.length)

include sorted

variable {chosen : List (List α)}

theorem length_le_of_sublist (isChoice : chosen.Sublist parts)
    (fits : used + chosen.flatten.length ≤ budget) :
    chosen.length ≤ (selectWithin budget used parts).length := by
  induction parts generalizing used chosen with
  | nil => rw [sublist_nil.mp isChoice]; exact Nat.zero_le _
  | cons part parts ih =>
    obtain ⟨shortest, restSorted⟩ := pairwise_cons.mp sorted
    have shorter : ∀ other ∈ chosen, part.length ≤ other.length := by
      intro other otherMem
      rcases mem_cons.mp (isChoice.subset otherMem) with rfl | later
      · exact Nat.le_refl _
      · exact shortest other later
    cases chosen with
    | nil => exact Nat.zero_le _
    | cons first rest =>
      have firstLonger := shorter first (.head _)
      rw [flatten_cons, length_append] at fits
      have restChosen : rest.Sublist parts := by
        cases isChoice with
        | cons _ later => exact (sublist_cons_self first rest).trans later
        | cons_cons _ later => exact later
      unfold selectWithin
      rw [if_neg (by omega)]
      exact Nat.succ_le_succ (ih restSorted restChosen (by omega))

/-- No choice of the lists within the budget has more of them. -/
theorem length_le_length_selectWithin (isChoice : chosen.Subperm parts)
    (fits : used + chosen.flatten.length ≤ budget) :
    chosen.length ≤ (selectWithin budget used parts).length := by
  obtain ⟨arranged, perm, isSublist⟩ := isChoice
  rw [← perm.length_eq]
  rw [← perm.flatten.length_eq] at fits
  exact length_le_of_sublist sorted isSublist fits

end

end Selection

end Caura.Partition
