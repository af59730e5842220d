import Mathlib.Data.List.Nodup

/-!
# Tables with a primary key

A table is a list of rows whose keys are pairwise distinct, the distinctness
being part of the value.  `modify` is an `UPDATE … WHERE`: it rewrites the rows
a condition selects by a function that keeps the key, so the result is a table
again.  `lookup` is the read by primary key, and `lookup_modify` reduces every
read after an update to the read before it.
-/

namespace Caura.Relation

open List

universe u v w

/-- Rows with pairwise distinct primary keys. -/
structure Table (α : Type u) {κ : Type v} (key : α → κ) where
  rows : List α
  nodup : (rows.map key).Nodup
  deriving DecidableEq

namespace Table

variable {α : Type u} {κ : Type v} {key : α → κ}

instance : Membership α (Table α key) where
  mem table row := row ∈ table.rows

variable {table : Table α key} {row first second : α}

theorem mem_def : row ∈ table ↔ row ∈ table.rows :=
  .rfl

/-- Rows of a table are determined by their keys. -/
theorem eq_of_key_eq (firstMem : first ∈ table) (secondMem : second ∈ table)
    (keyEq : key first = key second) : first = second :=
  inj_on_of_nodup_map table.nodup firstMem secondMem keyEq

/-- The rows a condition selects, in table order. -/
def select (table : Table α key) (condition : α → Bool) : List α :=
  table.rows.filter condition

variable {condition : α → Bool}

@[simp]
theorem mem_select_iff : row ∈ table.select condition ↔ row ∈ table ∧ condition row = true :=
  mem_filter

/-- Tables that agree on the rows with a property select alike under a condition
that implies it. -/
theorem mem_select_iff_of_agree {first second : Table α key} {Shown : α → Prop}
    (agree : ∀ row, Shown row → (row ∈ first ↔ row ∈ second))
    (confined : ∀ row, condition row = true → Shown row) (row : α) :
    row ∈ first.select condition ↔ row ∈ second.select condition := by
  rw [mem_select_iff, mem_select_iff]
  constructor
  · rintro ⟨rowMem, holds⟩
    exact ⟨(agree row (confined row holds)).mp rowMem, holds⟩
  · rintro ⟨rowMem, holds⟩
    exact ⟨(agree row (confined row holds)).mpr rowMem, holds⟩

section Lookup

variable [DecidableEq κ]

/-- The row with the given key. -/
def lookup (table : Table α key) (target : κ) : Option α :=
  table.rows.find? fun row => key row = target

theorem lookup_eq_some_iff {target : κ} :
    table.lookup target = some row ↔ row ∈ table ∧ key row = target := by
  constructor
  · intro found
    exact ⟨mem_of_find?_eq_some found, by
      simpa using List.find?_some found⟩
  · rintro ⟨rowMem, keyEq⟩
    cases found : table.lookup target with
    | none =>
      have absent := List.find?_eq_none.mp found row rowMem
      simp [keyEq] at absent
    | some other =>
      have otherMem : other ∈ table := mem_of_find?_eq_some found
      have otherKey : key other = target := by
        simpa using List.find?_some found
      rw [eq_of_key_eq otherMem rowMem (otherKey.trans keyEq.symm)]

theorem lookup_key (rowMem : row ∈ table) : table.lookup (key row) = some row :=
  lookup_eq_some_iff.mpr ⟨rowMem, rfl⟩

theorem isSome_lookup_iff {target : κ} :
    (table.lookup target).isSome = true ↔ ∃ row ∈ table, key row = target := by
  rw [Option.isSome_iff_exists]
  exact exists_congr fun _ => lookup_eq_some_iff

end Lookup

/-! ## Updates -/

variable {change : α → α} {rows : List α}

theorem map_key_map_ite (keeps : ∀ row, key (change row) = key row) :
    (rows.map fun row => if condition row then change row else row).map key = rows.map key := by
  rw [map_map]
  apply map_congr_left
  intro row _
  by_cases selected : condition row = true <;> simp [selected, keeps]

/-- Rewrite the rows a condition selects, keeping their keys. -/
def modify (table : Table α key) (condition : α → Bool) (change : α → α)
    (keeps : ∀ row, key (change row) = key row) : Table α key where
  rows := table.rows.map fun row => if condition row then change row else row
  nodup := by
    rw [map_key_map_ite keeps]
    exact table.nodup

theorem mem_modify_iff {keeps : ∀ row, key (change row) = key row} :
    row ∈ table.modify condition change keeps ↔ ∃ before ∈ table,
        (if condition before then change before else before) = row :=
  mem_map

/-- A row stays as it is if the condition selects no row with its value in a column that
the change keeps. -/
theorem mem_modify_iff_of_unselected {ι : Type w} (column : α → ι) (table : Table α key)
    (change : α → α) (keeps : ∀ row, key (change row) = key row)
    (keepsColumn : ∀ row, column (change row) = column row)
    (unselected : ∀ before ∈ table, column before = column row → condition before = false) :
    row ∈ table.modify condition change keeps ↔ row ∈ table := by
  rw [mem_modify_iff]
  constructor
  · rintro ⟨before, beforeMem, rfl⟩
    have sameColumn : column before =
        column (if condition before then change before else before) := by
      split
      · exact (keepsColumn before).symm
      · rfl
    rwa [unselected before beforeMem sameColumn]
  · intro rowMem
    exact ⟨row, rowMem, by rw [unselected row rowMem rfl]; rfl⟩

/-- A condition that selects no row changes nothing. -/
theorem modify_eq_self (keeps : ∀ row, key (change row) = key row)
    (unselected : table.rows.any condition = false) :
    table.modify condition change keeps = table := by
  have same : (table.rows.map fun row => if condition row then change row else row) =
      table.rows := by
    nth_rewrite 2 [← map_id table.rows]
    apply map_congr_left
    intro row rowMem
    simp [any_eq_false.mp unselected row rowMem]
  cases table
  simpa [modify] using same

section

variable (table condition change) (keeps : ∀ row, key (change row) = key row)

/-- An update keeps the keys. -/
theorem map_key_modify : (table.modify condition change keeps).rows.map key = table.rows.map key :=
  map_key_map_ite keeps

/-- So it keeps any other column that the change keeps. -/
theorem map_modify {ι : Type w} {column : α → ι}
    (keepsColumn : ∀ row, column (change row) = column row) :
    (table.modify condition change keeps).rows.map column = table.rows.map column :=
  map_key_map_ite keepsColumn

theorem lookup_modify [DecidableEq κ] (target : κ) :
    (table.modify condition change keeps).lookup target = (table.lookup target).map fun row =>
        if condition row then change row else row := by
  unfold lookup modify
  rw [List.find?_map]
  congr 2
  funext row
  by_cases selected : condition row = true <;> simp [selected, keeps]

/-- The second table has the rows of the first, each changed by the effect. -/
def Rewrites [DecidableEq κ] (before after : Table α key) (effect : α → α) : Prop :=
  ∀ target, after.lookup target = (before.lookup target).map effect

theorem Rewrites.modify [DecidableEq κ] : table.Rewrites (table.modify condition change keeps)
    fun row => if condition row then change row else row :=
  lookup_modify table condition change keeps

end

namespace Rewrites

variable [DecidableEq κ] {first second third : Table α key} {effect next : α → α}

theorem refl (table : Table α key) : table.Rewrites table id := by
  intro target
  rw [Option.map_id, id]

theorem trans (rewrites : first.Rewrites second effect)
    (rest : second.Rewrites third next) : first.Rewrites third (next ∘ effect) := by
  intro target
  rw [rest, rewrites, Option.map_map]

/-- Two updates one after the other, of which the second does not meet the rows
that the first one changed. -/
theorem modify_modify {early late : α → Bool}
    {lateChange : α → α} (keeps : ∀ row, key (change row) = key row)
    (lateKeeps : ∀ row, key (lateChange row) = key row)
    (spent : ∀ row, early row = true → late (change row) = false) :
    table.Rewrites ((table.modify early change keeps).modify late lateChange lateKeeps)
      fun row => if early row then change row
        else if late row then lateChange row else row := by
  have both := (modify table early change keeps).trans (modify _ late lateChange lateKeeps)
  convert both using 1
  funext row
  by_cases selected : early row = true
  · simp [selected, spent row selected]
  · simp [selected]

theorem lookup_key (rewrites : first.Rewrites second effect)
    (rowMem : row ∈ first) : second.lookup (key row) = some (effect row) := by
  rw [rewrites, Table.lookup_key rowMem, Option.map_some]

/-- Every row of the second table is a changed row of the first. -/
theorem exists_of_mem (rewrites : first.Rewrites second effect)
    (rowMem : row ∈ second) : ∃ before ∈ first, effect before = row := by
  have found := Table.lookup_key rowMem
  rw [rewrites, Option.map_eq_some_iff] at found
  obtain ⟨before, beforeFound, changed⟩ := found
  exact ⟨before, (lookup_eq_some_iff.mp beforeFound).1, changed⟩

end Rewrites

/-- Append a row whose key no row has yet. -/
def insert (table : Table α key) (row : α)
    (fresh : key row ∉ table.rows.map key) : Table α key where
  rows := table.rows ++ [row]
  nodup := by
    rw [map_append, nodup_append]
    refine ⟨table.nodup, by simp, ?_⟩
    intro existing existingMem other otherMem equal
    have otherEq : other = key row := by simpa using otherMem
    exact fresh (otherEq ▸ equal ▸ existingMem)

theorem lookup_insert [DecidableEq κ] (table : Table α key) (row : α)
    (fresh : key row ∉ table.rows.map key) (target : κ) :
    (table.insert row fresh).lookup target =
      if key row = target then some row else table.lookup target := by
  unfold lookup insert
  rw [List.find?_append]
  by_cases isRow : key row = target
  · have absent : table.rows.find? (fun other => key other = target) = none := by
      rw [List.find?_eq_none]
      intro other otherMem
      have otherNe : key other ≠ key row := fun keyEq =>
        fresh (keyEq ▸ mem_map_of_mem otherMem)
      simpa [isRow] using otherNe
    rw [absent]
    simp
  · simp [isRow]

theorem lookup_eq_none_iff [DecidableEq κ] {target : κ} :
    table.lookup target = none ↔ target ∉ table.rows.map key := by
  simp [lookup]

/-- The table without rows. -/
def empty : Table α key where
  rows := []
  nodup := nodup_nil

/-- Remove the rows a condition selects. -/
def delete (table : Table α key) (condition : α → Bool) : Table α key where
  rows := table.rows.filter fun row => !condition row
  nodup := table.nodup.sublist (filter_sublist.map key)

theorem mem_delete_iff : row ∈ table.delete condition ↔ row ∈ table ∧ condition row = false := by
  rw [mem_def, delete, mem_filter, Bool.not_eq_true']
  exact .rfl

theorem lookup_delete [DecidableEq κ] (table : Table α key) (condition : α → Bool)
    (target : κ) : (table.delete condition).lookup target =
      (table.lookup target).filter fun row => !condition row := by
  ext row
  rw [lookup_eq_some_iff, mem_delete_iff, Option.filter_eq_some_iff, lookup_eq_some_iff,
    Bool.not_eq_true']
  exact and_right_comm

/-! ## Changes of keys -/

/-- The keys stay distinct if those of changed rows do, and meet no other. -/
theorem nodup_map_ite (nodup : (rows.map key).Nodup)
    (among : ∀ first ∈ rows, ∀ second ∈ rows, condition first = true → condition second = true →
      key (change first) = key (change second) → key first = key second)
    (free : ∀ first ∈ rows, ∀ second ∈ rows, condition first = true →
      condition second = false → key (change first) ≠ key second) :
    ((rows.map fun row => if condition row then change row else row).map key).Nodup := by
  rw [map_map]
  apply (nodup_map_iff_inj_on nodup.of_map).mpr
  intro first firstMem second secondMem same
  have byKey : key first = key second → first = second :=
    inj_on_of_nodup_map nodup firstMem secondMem
  simp only [Function.comp_apply] at same
  cases selected : condition first <;> cases otherSelected : condition second <;>
    simp only [selected, otherSelected, if_true, Bool.false_eq_true, if_false] at same
  · exact byKey same
  · exact absurd same.symm (free second secondMem first firstMem otherSelected selected)
  · exact absurd same (free first firstMem second secondMem selected otherSelected)
  · exact byKey (among first firstMem second secondMem selected otherSelected same)

/-- An update that may change keys, refused if two rows would have the same one. -/
def rekey [DecidableEq κ] (table : Table α key) (condition : α → Bool) (change : α → α) :
    Option (Table α key) :=
  let rows := table.rows.map fun row => if condition row then change row else row
  if nodup : (rows.map key).Nodup then some { rows, nodup } else none

/-- Such an update is made if no key is taken. -/
theorem exists_rekey [DecidableEq κ] (table : Table α key) (change : α → α)
    (among : ∀ first ∈ table, ∀ second ∈ table, condition first = true →
      condition second = true → key (change first) = key (change second) → key first = key second)
    (free : ∀ first ∈ table, ∀ second ∈ table, condition first = true →
      condition second = false → key (change first) ≠ key second) :
    ∃ after, table.rekey condition change = some after ∧ ∀ row, row ∈ after ↔
        ∃ before ∈ table, (if condition before then change before else before) = row :=
  ⟨⟨_, nodup_map_ite table.nodup among free⟩, dif_pos _, fun _ => mem_map⟩

end Table

end Caura.Relation
