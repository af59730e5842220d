import Caura.Relation.Table

/-!
# Sweeping a table by generations

A sweep updates the rows that a condition selects, then the rows derived from
those, and so on until a generation is empty.  Every update spends the rows it
touches, so that no row is touched twice: the sweep ends within as many
generations as there are rows left to spend.  What it touches is the closure
`Swept` of the first generation, and the table it leaves is the one where
exactly that closure is changed.
-/

namespace Caura.Relation

open List

universe u v

namespace Table

variable {α : Type u} {κ : Type v} {key : α → κ}

/-- An `UPDATE … WHERE … RETURNING` of the key. -/
def update (table : Table α key) (condition : α → Bool) (change : α → α)
    (keeps : ∀ row, key (change row) = key row) : Table α key × List κ :=
  (table.modify condition change keeps, (table.select condition).map key)

variable {table : Table α key} {condition first second seed fresh : α → Bool} {row : α}
  {change : α → α} {keeps : ∀ row, key (change row) = key row}

/-- A row of the table is selected exactly when its key is returned. -/
theorem key_mem_update_iff (rowMem : row ∈ table) :
    key row ∈ (table.update condition change keeps).2 ↔ condition row = true := by
  simp only [update, mem_map, mem_select_iff]
  constructor
  · rintro ⟨other, ⟨otherMem, selected⟩, keyEq⟩
    exact eq_of_key_eq otherMem rowMem keyEq ▸ selected
  · intro selected
    exact ⟨row, ⟨rowMem, selected⟩, rfl⟩

theorem modify_congr (agree : ∀ row ∈ table, first row = second row) :
    table.modify first change keeps = table.modify second change keeps := by
  unfold modify
  congr 1
  apply map_congr_left
  intro row rowMem
  rw [agree row rowMem]

/-! ## Generations -/

/-- Update generation after generation, each derived from the keys of the last,
and collect the keys.  `none` says that `fuel` generations were not enough. -/
def sweep (derived : List κ → α → Bool) (change : α → α)
    (keeps : ∀ row, key (change row) = key row) :
    Nat → Table α key → List κ → List κ → Option (Table α key × List κ)
  | _, table, [], moved => some (table, moved)
  | 0, _, _ :: _, _ => none
  | fuel + 1, table, parent :: parents, moved =>
    let (written, next) :=
      table.update (derived (parent :: parents)) change keeps
    sweep derived change keeps fuel written next (moved ++ next)

/-- The rows a sweep reaches: those the seed selects, and the fresh rows derived
from a row reached. -/
inductive Swept (table : Table α key) (seed fresh : α → Bool)
    (child : κ → α → Prop) : α → Prop where
  | seed {row : α} :
      row ∈ table → seed row = true → Swept table seed fresh child row
  | derived {parent row : α} :
      Swept table seed fresh child parent → row ∈ table → fresh row = true →
        child (key parent) row → Swept table seed fresh child row

variable {child : κ → α → Prop}

theorem Swept.mem (swept : table.Swept seed fresh child row) : row ∈ table := by
  cases swept with
  | seed rowMem _ | derived _ rowMem _ _ => exact rowMem

/-- Whether a row is reached can be read off its key. -/
theorem Swept.exists_key_iff (rowMem : row ∈ table) :
    (∃ other, table.Swept seed fresh child other ∧ key other = key row) ↔
      table.Swept seed fresh child row := by
  constructor
  · rintro ⟨other, swept, keyEq⟩
    exact eq_of_key_eq swept.mem rowMem keyEq ▸ swept
  · intro swept
    exact ⟨row, swept, rfl⟩

/-- What a sweep needs: a generation is made of fresh rows with a parent in the
last one, and a changed row is no longer fresh. -/
structure Sweepable (derived : List κ → α → Bool) (change : α → α)
    (fresh : α → Bool) (child : κ → α → Prop) : Prop where
  derived_iff : ∀ parents row, derived parents row = true ↔
    fresh row = true ∧ ∃ parent ∈ parents, child parent row
  spent : ∀ row, fresh (change row) = false

/-! ## Termination -/

variable {derived : List κ → α → Bool} {change : α → α}
  {keeps : ∀ row, key (change row) = key row}

/-- Every row of a generation leaves the fresh ones. -/
theorem countP_fresh_modify (table : Table α key) (condition : α → Bool)
    (keeps : ∀ row, key (change row) = key row)
    (selectsFresh : ∀ row, condition row = true → fresh row = true)
    (spent : ∀ row, fresh (change row) = false) :
    (table.modify condition change keeps).rows.countP fresh +
        (table.select condition).length = table.rows.countP fresh := by
  change (table.rows.map _).countP fresh + (table.rows.filter condition).length = _
  induction table.rows with
  | nil => rfl
  | cons row rows ih =>
    by_cases selected : condition row = true
    · simp [selected, spent, selectsFresh row selected, ← ih]
      omega
    · simp only [map_cons, countP_cons, selected, filter_cons]
      simp only [Bool.false_eq_true, if_false]
      omega

/-- With more fuel than fresh rows, a sweep ends. -/
theorem sweep_isSome (sweepable : Sweepable derived change fresh child)
    (fuel : Nat) (table : Table α key) (parents moved : List κ)
    (enough : table.rows.countP fresh < fuel) :
    (sweep derived change keeps fuel table parents moved).isSome = true := by
  induction fuel generalizing table parents moved with
  | zero => omega
  | succ fuel ih =>
    cases parents with
    | nil => rfl
    | cons parent parents =>
      simp only [sweep, update]
      have fewer := countP_fresh_modify table (derived (parent :: parents))
        keeps (fun row selected => ((sweepable.derived_iff _ row).mp selected).1)
        sweepable.spent
      cases next : (table.select (derived (parent :: parents))).map key with
      | nil => cases fuel <;> rfl
      | cons first rest =>
        apply ih
        have nonempty := congrArg List.length next
        simp only [length_map, length_cons] at nonempty
        omega

/-! ## The closure -/

variable [DecidableEq κ]

/-- The state of a sweep over `table`: the rows moved so far are swept, and only
the last generation can still have fresh rows derived from it. -/
structure Sweeping (table : Table α key) (change : α → α)
    (keeps : ∀ row, key (change row) = key row) (seed fresh : α → Bool)
    (child : κ → α → Prop) (current : Table α key) (parents moved : List κ) :
    Prop where
  current_eq : current = table.modify (fun row => key row ∈ moved) change keeps
  seeds : ∀ row ∈ table, seed row = true → key row ∈ moved
  swept : ∀ row ∈ table, key row ∈ moved → table.Swept seed fresh child row
  held : ∀ target ∈ moved, ∃ row ∈ table, key row = target
  parents_subset : parents ⊆ moved
  closed : ∀ row ∈ table, fresh row = true → key row ∉ moved →
    ∀ parent ∈ moved, child parent row → parent ∈ parents

/-- The first generation. -/
theorem Sweeping.start (table : Table α key)
    (keeps : ∀ row, key (change row) = key row) (fresh : α → Bool)
    (child : κ → α → Prop) :
    table.Sweeping change keeps seed fresh child
      (table.update seed change keeps).1 (table.update seed change keeps).2
      (table.update seed change keeps).2 where
  current_eq := by
    apply modify_congr
    intro row rowMem
    rw [Bool.eq_iff_iff, decide_eq_true_iff]
    exact (key_mem_update_iff rowMem).symm
  seeds row rowMem seeded := (key_mem_update_iff rowMem).mpr seeded
  swept row rowMem moved := .seed rowMem ((key_mem_update_iff rowMem).mp moved)
  held target targetMem := by
    obtain ⟨row, rowMem, rfl⟩ := mem_map.mp targetMem
    exact ⟨row, (mem_select_iff.mp rowMem).1, rfl⟩
  parents_subset := List.Subset.refl _
  closed _ _ _ _ parent parentMem _ := parentMem

namespace Sweeping

variable {current : Table α key} {parents moved : List κ}

section

variable (inv : table.Sweeping change keeps seed fresh child current parents moved)

include inv

/-- A row not moved yet is still as it was. -/
theorem mem_current (rowMem : row ∈ table) (unmoved : key row ∉ moved) : row ∈ current := by
  rw [inv.current_eq, mem_modify_iff]
  exact ⟨row, rowMem, by simp [unmoved]⟩

/-- A fresh row of the current table was not moved. -/
theorem mem_of_fresh (spent : ∀ row, fresh (change row) = false) (rowMem : row ∈ current)
    (isFresh : fresh row = true) : row ∈ table ∧ key row ∉ moved := by
  rw [inv.current_eq, mem_modify_iff] at rowMem
  obtain ⟨before, beforeMem, rfl⟩ := rowMem
  by_cases wasMoved : key before ∈ moved
  · simp [wasMoved, spent] at isFresh
  · simpa [wasMoved] using beforeMem

/-- A generation is made of the unmoved fresh rows with a parent in the last
one. -/
theorem key_mem_next_iff (sweepable : Sweepable derived change fresh child) (rowMem : row ∈ table) :
    key row ∈ (current.update (derived parents) change keeps).2 ↔
      key row ∉ moved ∧ fresh row = true ∧ ∃ parent ∈ parents, child parent row := by
  constructor
  · intro nextMem
    rcases mem_map.mp nextMem with ⟨other, otherMem, keyEq⟩
    rcases mem_select_iff.mp otherMem with ⟨otherCurrent, selected⟩
    rcases (sweepable.derived_iff parents other).mp selected with
      ⟨isFresh, hasParent⟩
    rcases inv.mem_of_fresh sweepable.spent otherCurrent isFresh with
      ⟨otherTable, unmoved⟩
    have same : other = row := eq_of_key_eq otherTable rowMem keyEq
    subst same
    exact ⟨unmoved, isFresh, hasParent⟩
  · rintro ⟨unmoved, isFresh, hasParent⟩
    exact (key_mem_update_iff (inv.mem_current rowMem unmoved)).mpr
      ((sweepable.derived_iff parents row).mpr ⟨isFresh, hasParent⟩)

/-- One generation keeps the state of a sweep. -/
theorem next (sweepable : Sweepable derived change fresh child) :
    table.Sweeping change keeps seed fresh child (current.update (derived parents) change keeps).1
      (current.update (derived parents) change keeps).2
      (moved ++ (current.update (derived parents) change keeps).2) where
  current_eq := by
    have unspent : ∀ row, derived parents (change row) = false := by
      intro row
      rw [Bool.eq_false_iff]
      intro selected
      have isFresh := ((sweepable.derived_iff parents _).mp selected).1
      rw [sweepable.spent] at isFresh
      contradiction
    change current.modify (derived parents) change keeps = _
    conv_lhs => rw [inv.current_eq]
    unfold modify
    congr 1
    rw [map_map]
    apply map_congr_left
    intro row rowMem
    have nextIff := inv.key_mem_next_iff sweepable rowMem
    by_cases wasMoved : key row ∈ moved
    · simp [wasMoved, unspent]
    · have derivedIff := sweepable.derived_iff parents row
      rw [← derivedIff] at nextIff
      simp [wasMoved, nextIff]
  seeds row rowMem seeded := mem_append_left _ (inv.seeds row rowMem seeded)
  swept row rowMem movedMem := by
    rcases mem_append.mp movedMem with movedMem | nextMem
    · exact inv.swept row rowMem movedMem
    · rcases (inv.key_mem_next_iff sweepable rowMem).mp nextMem with
        ⟨_, isFresh, parent, parentMem, isChild⟩
      rcases inv.held parent (inv.parents_subset parentMem) with
        ⟨parentRow, parentRowMem, rfl⟩
      exact .derived (inv.swept parentRow parentRowMem
        (inv.parents_subset parentMem)) rowMem isFresh isChild
  held target targetMem := by
    rcases mem_append.mp targetMem with movedMem | nextMem
    · exact inv.held target movedMem
    · rcases mem_map.mp nextMem with ⟨row, rowMem, rfl⟩
      rcases mem_select_iff.mp rowMem with ⟨rowCurrent, selected⟩
      exact ⟨row, (inv.mem_of_fresh sweepable.spent rowCurrent
        ((sweepable.derived_iff parents row).mp selected).1).1, rfl⟩
  parents_subset := subset_append_right _ _
  closed row rowMem isFresh unmoved parent parentMem isChild := by
    simp only [mem_append, not_or] at unmoved
    rcases mem_append.mp parentMem with movedMem | nextMem
    · have isParent := inv.closed row rowMem isFresh unmoved.1 parent movedMem isChild
      exact absurd ((inv.key_mem_next_iff sweepable rowMem).mpr
        ⟨unmoved.1, isFresh, parent, isParent, isChild⟩) unmoved.2
    · exact nextMem

end

/-- When no generation is left, exactly the closure was moved. -/
theorem mem_moved_iff (inv : table.Sweeping change keeps seed fresh child current
    [] moved) {target : κ} :
    target ∈ moved ↔ ∃ row, table.Swept seed fresh child row ∧ key row = target := by
  constructor
  · intro targetMem
    obtain ⟨row, rowMem, rfl⟩ := inv.held target targetMem
    exact ⟨row, inv.swept row rowMem targetMem, rfl⟩
  · rintro ⟨row, swept, rfl⟩
    induction swept with
    | seed seedMem seeded => exact inv.seeds _ seedMem seeded
    | @derived parent row _ childMem isFresh isChild parentMoved =>
      by_contra unmoved
      have noParent := inv.closed row childMem isFresh unmoved (key parent) parentMoved isChild
      simp at noParent

end Sweeping

theorem sweeping_of_sweep (sweepable : Sweepable derived change fresh child) {fuel : Nat}
    {current final : Table α key} {parents moved all : List κ}
    (inv : table.Sweeping change keeps seed fresh child current parents moved)
    (swept : sweep derived change keeps fuel current parents moved = some (final, all)) :
    table.Sweeping change keeps seed fresh child final [] all := by
  induction fuel generalizing current parents moved with
  | zero =>
    cases parents with
    | nil =>
      cases swept
      exact inv
    | cons parent parents => contradiction
  | succ fuel ih =>
    cases parents with
    | nil =>
      cases swept
      exact inv
    | cons parent parents => exact ih (inv.next sweepable) swept

/-- A sweep that starts from the rows a seed selects ends, and changes exactly
their closure. -/
theorem sweep_spec (table : Table α key) (sweepable : Sweepable derived change fresh child)
    (keeps : ∀ row, key (change row) = key row) (seed : α → Bool) :
    ∃ moved, sweep derived change keeps (table.rows.length + 1)
          (table.update seed change keeps).1 (table.update seed change keeps).2
          (table.update seed change keeps).2 =
        some (table.modify (fun row => key row ∈ moved) change keeps, moved) ∧
      ∀ target, target ∈ moved ↔ ∃ row, table.Swept seed fresh child row ∧ key row = target := by
  have sameLength : (table.update seed change keeps).1.rows.length = table.rows.length :=
    length_map ..
  have enough : (table.update seed change keeps).1.rows.countP fresh < table.rows.length + 1 :=
    Nat.lt_succ_of_le (sameLength ▸ countP_le_length)
  rcases Option.isSome_iff_exists.mp (sweep_isSome sweepable _ _
    (table.update seed change keeps).2 (table.update seed change keeps).2
      enough) with ⟨⟨final, moved⟩, swept⟩
  have inv := sweeping_of_sweep sweepable (Sweeping.start table keeps fresh child) swept
  exact ⟨moved, inv.current_eq ▸ swept, fun _ => inv.mem_moved_iff⟩

end Table

end Caura.Relation
