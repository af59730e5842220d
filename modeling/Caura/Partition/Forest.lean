import Mathlib.Logic.Function.Basic

/-!
# Union-find with path halving

A forest gives each element a parent; a root is its own.  Each element that stopped being
a root remembers how many unions came before, and these numbers grow along the parents:
so no path is longer than the number of unions, and `find` reaches a root with that much
fuel.  A label that is constant along the parents stays so under `find`.
-/

namespace Caura.Partition

open Function

universe u v

variable {κ : Type u}

/-- Parent links, with the number of unions so far and the number that came before each
element got its parent. -/
structure Forest (κ : Type u) where
  parent : κ → κ
  unions : Nat
  joinedAt : κ → Nat
  early : ∀ id, parent id ≠ id → joinedAt id < unions
  ascending : ∀ id, parent id ≠ id → parent (parent id) ≠ parent id →
    joinedAt id < joinedAt (parent id)

namespace Forest

/-- Every element is a root. -/
def singletons : Forest κ where
  parent := id
  unions := 0
  joinedAt := fun _ => 0
  early := fun _ moved => absurd rfl moved
  ascending := fun _ moved => absurd rfl moved

/-- The label is constant along the parents. -/
def Respects {β : Type v} (forest : Forest κ) (label : κ → β) : Prop :=
  ∀ id, label (forest.parent id) = label id

variable {id target root : κ}

/-- Two steps up do not lead back. -/
theorem parent_parent_ne (forest : Forest κ) (moved : forest.parent id ≠ id) :
    forest.parent (forest.parent id) ≠ id := by
  intro back
  have parentMoved : forest.parent (forest.parent id) ≠ forest.parent id := by
    rw [back]
    exact moved.symm
  have up := forest.ascending id moved parentMoved
  have upAgain := forest.ascending (forest.parent id) parentMoved (by rw [back]; exact moved)
  rw [back] at upAgain
  exact Nat.lt_asymm up upAgain

variable [DecidableEq κ]

/-! ## Halving -/

/-- Point an element to its grandparent. -/
def halve (forest : Forest κ) (target : κ) : Forest κ where
  parent := update forest.parent target (forest.parent (forest.parent target))
  unions := forest.unions
  joinedAt := forest.joinedAt
  early := by
    intro id moved
    by_cases isTarget : id = target
    · subst isTarget
      rw [update_self] at moved
      apply forest.early
      intro root
      exact moved (by rw [root, root])
    · rw [update_of_ne isTarget] at moved
      exact forest.early id moved
  ascending := by
    intro id moved parentMoved
    by_cases isTarget : id = target
    · subst isTarget
      rw [update_self] at moved parentMoved ⊢
      rw [update_of_ne moved] at parentMoved
      have notRoot : forest.parent id ≠ id := by
        intro root
        exact moved (by rw [root, root])
      have parentNotRoot : forest.parent (forest.parent id) ≠ forest.parent id := by
        intro root
        exact parentMoved (by rw [root, root])
      exact Nat.lt_trans (forest.ascending id notRoot parentNotRoot)
        (forest.ascending _ parentNotRoot parentMoved)
    · rw [update_of_ne isTarget] at moved parentMoved ⊢
      apply forest.ascending id moved
      by_cases parentIsTarget : forest.parent id = target
      · rw [parentIsTarget, update_self] at parentMoved
        rw [parentIsTarget]
        intro root
        exact parentMoved (by rw [root, root])
      · rwa [update_of_ne parentIsTarget] at parentMoved

theorem halve_parent_self (forest : Forest κ) (target : κ) :
    (forest.halve target).parent target = forest.parent (forest.parent target) :=
  update_self ..

theorem halve_parent_of_ne {forest : Forest κ} (other : id ≠ target) :
    (forest.halve target).parent id = forest.parent id :=
  update_of_ne other ..

/-- Halving makes no root and removes none. -/
theorem halve_parent_eq_self_iff (forest : Forest κ) (moved : forest.parent target ≠ target)
    (id : κ) : (forest.halve target).parent id = id ↔ forest.parent id = id := by
  by_cases isTarget : id = target
  · subst isTarget
    rw [halve_parent_self]
    exact iff_of_false (forest.parent_parent_ne moved) moved
  · rw [halve_parent_of_ne isTarget]

variable {forest after : Forest κ}

theorem Respects.halve {β : Type v} {label : κ → β} (respects : forest.Respects label)
    (target : κ) : (forest.halve target).Respects label := by
  intro id
  by_cases isTarget : id = target
  · subst isTarget
    rw [halve_parent_self, respects, respects]
  · rw [halve_parent_of_ne isTarget, respects]

/-! ## Find -/

/-- Walk up to the root, halving the path, as long as there is fuel. -/
def findFrom : Nat → Forest κ → κ → Option (Forest κ × κ)
  | 0, _, _ => none
  | fuel + 1, forest, id =>
    if forest.parent id = id then
      some (forest, id)
    else findFrom fuel (forest.halve id) ((forest.halve id).parent id)

/-- The forest after a walk, and the root it reached. -/
def find (forest : Forest κ) (id : κ) : Forest κ × κ :=
  (findFrom (forest.unions + 1) forest id).getD (forest, id)

/-- What a walk from an element has done. -/
structure Found (before : Forest κ) (id : κ) (after : Forest κ) (root : κ) : Prop where
  isRoot : after.parent root = root
  keepsLabels : ∀ {β : Type u} {label : κ → β}, before.Respects label →
    after.Respects label ∧ label root = label id

/-- The steps a walk may still take. -/
def remaining (forest : Forest κ) (id : κ) : Nat :=
  if forest.parent id = id then 0 else forest.unions - forest.joinedAt id

theorem remaining_halve_lt (forest : Forest κ) (moved : forest.parent id ≠ id) :
    (forest.halve id).remaining ((forest.halve id).parent id) < forest.remaining id := by
  have early := forest.early id moved
  unfold remaining
  rw [halve_parent_self]
  split
  · exact Nat.sub_pos_of_lt early
  next notRoot =>
    rw [halve_parent_eq_self_iff forest moved] at notRoot
    have parentNotRoot : forest.parent (forest.parent id) ≠ forest.parent id := by
      intro root
      exact notRoot (by rw [root, root])
    have up := forest.ascending id moved parentNotRoot
    have upAgain := forest.ascending _ parentNotRoot notRoot
    exact Nat.sub_lt_sub_left early (Nat.lt_trans up upAgain)

/-- With fuel for the remaining steps the walk reaches a root. -/
theorem findFrom_found {fuel : Nat} (enough : forest.remaining id < fuel) :
    ∃ after root, findFrom fuel forest id = some (after, root) ∧ Found forest id after root := by
  induction fuel generalizing forest id with
  | zero => exact absurd enough (Nat.not_lt_zero _)
  | succ fuel ih =>
    unfold findFrom
    by_cases root : forest.parent id = id
    · rw [if_pos root]
      exact ⟨forest, id, rfl, root, fun respects => ⟨respects, rfl⟩⟩
    · rw [if_neg root]
      have shorter := forest.remaining_halve_lt root
      obtain ⟨after, reached, walks, found⟩ :=
        ih (Nat.lt_of_lt_of_le shorter (Nat.le_of_lt_succ enough))
      refine ⟨after, reached, walks, found.isRoot, ?_⟩
      intro β label respects
      obtain ⟨kept, sameLabel⟩ := found.keepsLabels (respects.halve id)
      refine ⟨kept, ?_⟩
      rw [sameLabel, respects.halve id id]

/-- A walk always reaches a root. -/
theorem find_found (forest : Forest κ) (id : κ) :
    Found forest id (forest.find id).1 (forest.find id).2 := by
  have enough : forest.remaining id < forest.unions + 1 := by
    unfold remaining
    split
    · exact Nat.succ_pos _
    · exact Nat.lt_succ_of_le (Nat.sub_le _ _)
  obtain ⟨after, root, walks, found⟩ := findFrom_found enough
  rwa [find, walks]

/-- A walk makes no root and removes none. -/
theorem findFrom_parent_eq_self_iff {fuel : Nat}
    (walks : findFrom fuel forest id = some (after, root)) (other : κ) :
    after.parent other = other ↔ forest.parent other = other := by
  induction fuel generalizing forest id with
  | zero => cases walks
  | succ fuel ih =>
    unfold findFrom at walks
    split at walks
    · cases walks
      rfl
    next moved => exact (ih walks).trans (forest.halve_parent_eq_self_iff moved other)

theorem find_parent_eq_self_iff (forest : Forest κ) (id other : κ) :
    (forest.find id).1.parent other = other ↔ forest.parent other = other := by
  unfold find
  cases walks : findFrom (forest.unions + 1) forest id with
  | none => rfl
  | some walked => exact findFrom_parent_eq_self_iff walks other

/-! ## Union -/

/-- Make an element the child of a root. -/
def join (forest : Forest κ) (child root : κ) (isRoot : forest.parent root = root)
    (apart : child ≠ root) : Forest κ where
  parent := update forest.parent child root
  unions := forest.unions + 1
  joinedAt := update forest.joinedAt child forest.unions
  early := by
    intro id moved
    by_cases isChild : id = child
    · subst isChild
      rw [update_self]
      exact Nat.lt_succ_self _
    · rw [update_of_ne isChild] at moved ⊢
      exact Nat.lt_succ_of_lt (forest.early id moved)
  ascending := by
    intro id moved parentMoved
    by_cases isChild : id = child
    · subst isChild
      rw [update_self, update_of_ne apart.symm] at parentMoved
      exact absurd isRoot parentMoved
    · rw [update_of_ne isChild] at moved parentMoved
      rw [update_of_ne isChild, update_of_ne isChild]
      by_cases parentIsChild : forest.parent id = child
      · rw [parentIsChild, update_self]
        exact forest.early id moved
      · rw [update_of_ne parentIsChild] at parentMoved ⊢
        exact forest.ascending id moved parentMoved

/-- Unite the trees of two elements: the first root becomes a child of the second. -/
def union (forest : Forest κ) (first second : κ) : Forest κ :=
  let firstWalk := forest.find first
  let secondWalk := firstWalk.1.find second
  if apart : firstWalk.2 ≠ secondWalk.2 then
    secondWalk.1.join firstWalk.2 secondWalk.2 (firstWalk.1.find_found second).isRoot apart
  else
    secondWalk.1

/-- Unite the trees of two elements: the root of lower rank becomes a child of the other,
and of two equal ranks the first is raised. -/
def unionByRank (state : Forest κ × (κ → Nat)) (first second : κ) : Forest κ × (κ → Nat) :=
  let firstWalk := state.1.find first
  let secondWalk := firstWalk.1.find second
  let rank := state.2
  if apart : firstWalk.2 = secondWalk.2 then
    (secondWalk.1, rank)
  else if rank firstWalk.2 < rank secondWalk.2 then
    (secondWalk.1.join firstWalk.2 secondWalk.2 (firstWalk.1.find_found second).isRoot apart,
      rank)
  else
    (secondWalk.1.join secondWalk.2 firstWalk.2
      ((firstWalk.1.find_parent_eq_self_iff second firstWalk.2).mpr
        (state.1.find_found first).isRoot) (Ne.symm apart),
      if rank firstWalk.2 = rank secondWalk.2 then
        update rank firstWalk.2 (rank firstWalk.2 + 1)
      else
        rank)

end Forest

end Caura.Partition
