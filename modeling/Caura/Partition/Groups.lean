import Mathlib.Data.List.Perm.Basic
import Mathlib.Data.List.Nodup
import Mathlib.Data.List.Pairwise

/-!
# Groups, strides and budgets

Four ways to cut a list into parts.  `addTo` collects items under their keys, in the
order the keys are first seen; `joinFirst` collects items that are all related to each
other; `stride` takes every so-many-th item from an offset; and
`selectWithin` takes the lists that fit in what is left of a budget.  Each part of a
list without repetitions has none, and different parts have no item in common.
-/

namespace Caura.Partition

open List

universe u v

variable {α : Type u} {ρ : Type v}

/-! ## Groups -/

section Groups

variable [DecidableEq ρ]

/-- Add an item to the group of its key, which is new if no item had the key. -/
def addTo (key : ρ) (item : α) : List (ρ × List α) → List (ρ × List α)
  | [] => [(key, [item])]
  | group :: groups =>
    if group.1 = key then
      (group.1, group.2 ++ [item]) :: groups
    else group :: addTo key item groups

/-- The items of all groups. -/
def members (groups : List (ρ × List α)) : List α :=
  (groups.map Prod.snd).flatten

theorem members_addTo {key : ρ} {item : α} {groups : List (ρ × List α)} :
    (members (addTo key item groups)).Perm (item :: members groups) := by
  induction groups with
  | nil => exact List.Perm.refl _
  | cons group groups ih =>
    unfold addTo
    split
    · have moved : ((group.2 ++ [item]) ++ members groups).Perm
          (item :: (group.2 ++ members groups)) := by
        rw [append_assoc]
        exact perm_middle
      exact moved
    · have moved : (group.2 ++ members (addTo key item groups)).Perm
          (item :: (group.2 ++ members groups)) :=
        (ih.append_left group.2).trans perm_middle
      exact moved

variable {groups : List (ρ × List α)} {key : ρ} {item : α}

/-- What holds of each group stays if it holds of the added item alone and behind others. -/
theorem forall_mem_addTo {P : ρ × List α → Prop} (holds : ∀ group ∈ groups, P group)
    (alone : P (key, [item])) (behind : ∀ others, P (key, others) → P (key, others ++ [item])) :
    ∀ group ∈ addTo key item groups, P group := by
  induction groups with
  | nil => exact forall_mem_singleton.mpr alone
  | cons first groups ih =>
    obtain ⟨ofFirst, ofRest⟩ := forall_mem_cons.mp holds
    unfold addTo
    split
    next sameKey =>
      subst sameKey
      exact forall_mem_cons.mpr ⟨behind first.2 ofFirst, ofRest⟩
    · exact forall_mem_cons.mpr ⟨ofFirst, ih ofRest⟩

theorem map_fst_addTo (key : ρ) (item : α) (groups : List (ρ × List α)) :
    (addTo key item groups).map Prod.fst =
      if key ∈ groups.map Prod.fst then groups.map Prod.fst
      else groups.map Prod.fst ++ [key] := by
  induction groups with
  | nil => rfl
  | cons group groups ih =>
    unfold addTo
    by_cases sameKey : group.1 = key
    · simp [sameKey]
    · rw [if_neg sameKey, map_cons, ih]
      simp only [map_cons, mem_cons, Ne.symm sameKey, false_or]
      split <;> rfl

/-- No key is there twice. -/
theorem nodup_keys_addTo (distinct : (groups.map Prod.fst).Nodup) :
    ((addTo key item groups).map Prod.fst).Nodup := by
  rw [map_fst_addTo]
  split
  · exact distinct
  next isNew => exact concat_eq_append ▸ distinct.concat isNew

end Groups

/-! ## Groups of related items -/

section Related

variable {related : α → α → Bool}

/-- Add an item to the first group whose items it is all related to, or to a new one. -/
def joinFirst (related : α → α → Bool) (groups : List (List α)) (item : α) : List (List α) :=
  match groups with
  | [] => [[item]]
  | group :: groups =>
    if group.all (related item) then
      (group ++ [item]) :: groups
    else
      group :: joinFirst related groups item

/-- The items of a group are related to those before them. -/
theorem pairwise_joinFirst {groups : List (List α)} {item : α}
    (pairwise : ∀ group ∈ groups, group.Pairwise fun first second => related second first) :
    ∀ group ∈ joinFirst related groups item,
      group.Pairwise fun first second => related second first := by
  induction groups with
  | nil => exact forall_mem_singleton.mpr (pairwise_singleton _ _)
  | cons first groups ih =>
    obtain ⟨ofFirst, ofRest⟩ := forall_mem_cons.mp pairwise
    unfold joinFirst
    split
    next fits =>
      refine forall_mem_cons.mpr ⟨pairwise_append.mpr
        ⟨ofFirst, pairwise_singleton _ _, fun other otherMem => ?_⟩, ofRest⟩
      exact forall_mem_singleton.mpr (all_eq_true.mp fits other otherMem)
    · exact forall_mem_cons.mpr ⟨ofFirst, ih ofRest⟩

/-- The groups have the items that were added, and no others. -/
theorem flatten_joinFirst (groups : List (List α)) (item : α) :
    (joinFirst related groups item).flatten.Perm (item :: groups.flatten) := by
  induction groups with
  | nil => exact List.Perm.refl _
  | cons group groups ih =>
    unfold joinFirst
    split
    · rw [flatten_cons, append_assoc]
      exact perm_middle
    · exact (ih.append_left group).trans perm_middle

theorem flatten_foldl_joinFirst (items : List α) (groups : List (List α)) :
    (items.foldl (joinFirst related) groups).flatten.Perm (items ++ groups.flatten) := by
  induction items generalizing groups with
  | nil => exact List.Perm.refl _
  | cons item items ih =>
    exact (ih (joinFirst related groups item)).trans
      (((flatten_joinFirst groups item).append_left items).trans perm_middle)

/-- The items of a group are related to each other. -/
theorem related_of_mem_foldl_joinFirst {items : List α} {group : List α}
    (refl : ∀ item, related item item = true)
    (symm : ∀ item other, related item other = true → related other item = true)
    (groupMem : group ∈ items.foldl (joinFirst related) []) {first second : α}
    (firstMem : first ∈ group) (secondMem : second ∈ group) : related first second = true := by
  have pairwise : ∀ group ∈ items.foldl (joinFirst related) [],
      group.Pairwise fun first second => related second first := by
    refine List.foldlRecOn (motive := fun groups : List (List α) => ∀ group ∈ groups,
      group.Pairwise fun first second => related second first) items _ ?_ ?_
    · exact nofun
    · exact fun _ pairwise item _ => pairwise_joinFirst pairwise
  have backwards := pairwise group groupMem
  have forwards : group.Pairwise fun first second => related first second :=
    backwards.imp fun {first second} => symm second first
  exact forwards.forall_of_forall_of_flip (fun item _ => refl item) backwards firstMem secondMem

end Related

/-! ## Strides -/

/-- The items whose positions leave the remainder `offset`. -/
def stride (count offset : Nat) (items : List α) : List α :=
  (items.zipIdx.filter fun entry => entry.2 % count = offset).map Prod.fst

section Stride

variable {count offset : Nat} {items : List α}

theorem stride_sublist : (stride count offset items).Sublist items := by
  have positioned : (stride count offset items).Sublist (items.zipIdx.map Prod.fst) :=
    filter_sublist.map Prod.fst
  rwa [zipIdx_map_fst] at positioned

theorem mem_stride_iff {item : α} : item ∈ stride count offset items ↔
      ∃ position, items[position]? = some item ∧ position % count = offset := by
  simp only [stride, mem_map, mem_filter, decide_eq_true_eq, Prod.exists, mem_zipIdx_iff_getElem?]
  constructor
  · rintro ⟨other, position, ⟨found, remainder⟩, rfl⟩
    exact ⟨position, found, remainder⟩
  · rintro ⟨position, found, remainder⟩
    exact ⟨item, position, ⟨found, remainder⟩, rfl⟩

/-- Strides with different offsets have no item in common. -/
theorem disjoint_stride {other : Nat} (nodup : items.Nodup) (apart : offset ≠ other) :
    (stride count offset items).Disjoint (stride count other items) := by
  intro item inFirst inSecond
  obtain ⟨position, found, remainder⟩ := mem_stride_iff.mp inFirst
  obtain ⟨otherPosition, otherFound, otherRemainder⟩ := mem_stride_iff.mp inSecond
  have samePosition : position = otherPosition := by
    obtain ⟨inRange, _⟩ := List.getElem?_eq_some_iff.mp found
    exact (List.getElem?_inj inRange nodup).mp (found.trans otherFound.symm)
  rw [samePosition, otherRemainder] at remainder
  exact apart remainder.symm

end Stride

/-! ## Budgets -/

/-- The lists that fit, in order, in what the ones taken before leave of the budget. -/
def selectWithin (budget : Nat) : Nat → List (List α) → List (List α)
  | _, [] => []
  | used, part :: parts =>
    if used + part.length > budget then
      selectWithin budget used parts
    else part :: selectWithin budget (used + part.length) parts

theorem selectWithin_sublist (budget used : Nat) (parts : List (List α)) :
    (selectWithin budget used parts).Sublist parts := by
  induction parts generalizing used with
  | nil => exact List.Sublist.slnil
  | cons part parts ih =>
    unfold selectWithin
    split
    · exact (ih _).cons part
    · exact (ih _).cons_cons part

end Caura.Partition
