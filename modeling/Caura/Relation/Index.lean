import Caura.Relation.Table

/-!
# Partial unique indexes

An index gives some rows of a table a value.  It is unique if no two rows have the same
value; the rows without a value are outside the index, so a partial index is an index
whose predicate decides which rows have one.  `holder` is the row with a value, and the
operations of a table keep an index unique when the row inserted has a free value and an
update only takes values away.
-/

namespace Caura.Relation

universe u v w

namespace Table

variable {α : Type u} {κ : Type v} {key : α → κ} {ι : Type w} {new row : α} {table : Table α key}

theorem mem_insert_iff (fresh : key new ∉ table.rows.map key) :
    row ∈ table.insert new fresh ↔ row ∈ table ∨ row = new := by
  rw [mem_def, insert, List.mem_append, List.mem_singleton]
  exact .rfl

theorem key_mem_insert {target : κ} (fresh : key new ∉ table.rows.map key)
    (present : target ∈ table.rows.map key) : target ∈ (table.insert new fresh).rows.map key := by
  obtain ⟨row, rowMem, rfl⟩ := List.mem_map.mp present
  exact List.mem_map_of_mem ((mem_insert_iff fresh).mpr (.inl rowMem))

/-- No two rows have the same value in the index. -/
def Unique (table : Table α key) (indexed : α → Option ι) : Prop :=
  ∀ first ∈ table, ∀ second ∈ table, ∀ value,
    indexed first = some value → indexed second = some value → first = second

theorem unique_empty (indexed : α → Option ι) : (empty : Table α key).Unique indexed := by
  intro first firstMem
  cases firstMem

variable [DecidableEq ι]

/-- The row with the value in the index. -/
def holder (table : Table α key) (indexed : α → Option ι) (value : ι) : Option α :=
  table.rows.find? fun row => indexed row = some value

variable {indexed : α → Option ι}

section Holder

variable {table : Table α key} {value : ι}

theorem mem_of_holder (found : table.holder indexed value = some row) :
    row ∈ table ∧ indexed row = some value :=
  ⟨List.mem_of_find?_eq_some found, by simpa using List.find?_some found⟩

theorem holder_eq_none_iff :
    table.holder indexed value = none ↔ ∀ row ∈ table, indexed row ≠ some value := by
  rw [holder, List.find?_eq_none]
  constructor <;>
  · intro absent row rowMem
    simpa using absent row rowMem

/-- In a unique index the holder is the row with the value. -/
theorem Unique.holder_eq (unique : table.Unique indexed) (rowMem : row ∈ table)
    (rowValue : indexed row = some value) : table.holder indexed value = some row := by
  cases found : table.holder indexed value with
  | none => exact absurd rowValue (holder_eq_none_iff.mp found row rowMem)
  | some other =>
    obtain ⟨otherMem, otherValue⟩ := mem_of_holder found
    rw [unique other otherMem row rowMem value otherValue rowValue]

end Holder

/-! ## Operations -/

section Operations

variable {table : Table α key}

/-- A row whose value is free can be inserted. -/
theorem Unique.insert (unique : table.Unique indexed) {fresh : key new ∉ table.rows.map key}
    (free : ∀ value, indexed new = some value → table.holder indexed value = none) :
    (table.insert new fresh).Unique indexed := by
  have apart : ∀ row ∈ table, ∀ value, indexed new = some value → indexed row ≠ some value :=
    fun row rowMem value newValue => holder_eq_none_iff.mp (free value newValue) row rowMem
  intro first firstMem second secondMem value firstValue secondValue
  rcases (mem_insert_iff fresh).mp firstMem with firstOld | rfl
  · rcases (mem_insert_iff fresh).mp secondMem with secondOld | rfl
    · exact unique first firstOld second secondOld value firstValue secondValue
    · exact absurd firstValue (apart first firstOld value secondValue)
  · rcases (mem_insert_iff fresh).mp secondMem with secondOld | rfl
    · exact absurd secondValue (apart second secondOld value firstValue)
    · rfl

omit [DecidableEq ι] in
/-- An update that takes the changed rows out of the index. -/
theorem Unique.modify (unique : table.Unique indexed) {condition : α → Bool}
    {change : α → α} {keeps : ∀ row, key (change row) = key row}
    (leaves : ∀ row, indexed (change row) = none) :
    (table.modify condition change keeps).Unique indexed := by
  -- A row with a value after the update is a row the update did not select.
  have unselected : ∀ row ∈ table.modify condition change keeps, ∀ value,
      indexed row = some value → row ∈ table := by
    intro row rowMem value rowValue
    obtain ⟨before, beforeMem, rfl⟩ := mem_modify_iff.mp rowMem
    split at rowValue
    · rw [leaves] at rowValue; cases rowValue
    next selected => rwa [if_neg selected]
  intro first firstMem second secondMem value firstValue secondValue
  exact unique first (unselected first firstMem value firstValue) second
    (unselected second secondMem value secondValue) value firstValue secondValue

/-- The holder of a value that the inserted row does not have. -/
theorem holder_insert_of_ne (fresh : key new ∉ table.rows.map key) {value : ι}
    (other : indexed new ≠ some value) :
    (table.insert new fresh).holder indexed value = table.holder indexed value := by
  unfold holder Table.insert
  rw [List.find?_append, List.find?_singleton, if_neg (by simpa using other), Option.or_none]

end Operations

end Table

end Caura.Relation
