import Caura.Memory.Row
import Mathlib.Data.Prod.Lex

/-!
# Which of two memories is older

`pickOlder` decides the direction of every verdict: the older row loses.  It
compares creation times and falls back to the text of the ids when the times
tie or one of them is missing.

`Older` is the same decision as a relation, with ids compared as numbers.  It
is a strict order between any two rows with distinct ids, and on rows that all
have a creation time it is transitive: there it is the lexicographic order of
`age`.
-/

namespace Caura.Memory

open Caura.Value

/-- Whichever of `a` and `b` was created first. -/
def pickOlder (a b : Row) : Row :=
  match a.createdAt, b.createdAt with
  | some aDt, some bDt =>
    if aDt ≠ bDt then
      if aDt < bDt then a else b
    else
      smallerId
  | _, _ => smallerId
where
  smallerId : Row :=
    if a.id.str < b.id.str then a
    else if b.id.str < a.id.str then b
    else a

/-- `a` was created before `b`, ties and missing times being broken by id. -/
def Older (a b : Row) : Prop :=
  match a.createdAt, b.createdAt with
  | some aDt, some bDt => aDt < bDt ∨ aDt = bDt ∧ a.id < b.id
  | _, _ => a.id < b.id

instance (a b : Row) : Decidable (Older a b) := by
  unfold Older
  split <;> infer_instance

/-- `Older` reads ids and creation times only. -/
theorem older_congr {a a' b b' : Row} (aId : a.id = a'.id) (bId : b.id = b'.id)
    (aCreated : a.createdAt = a'.createdAt)
    (bCreated : b.createdAt = b'.createdAt) : Older a b ↔ Older a' b' := by
  unfold Older
  rw [aId, bId, aCreated, bCreated]

variable {a b : Row}

theorem Older.asymm : Older a b → ¬ Older b a := by
  unfold Older
  cases a.createdAt <;> cases b.createdAt <;> simp only [Uuid.lt_def] <;> grind

/-- Two rows with distinct ids are always comparable. -/
theorem older_or_older (distinct : a.id ≠ b.id) : Older a b ∨ Older b a := by
  have byId : a.id.value ≠ b.id.value := fun valueEq => distinct (Uuid.ext_value valueEq)
  unfold Older
  cases a.createdAt <;> cases b.createdAt <;> simp only [Uuid.lt_def] <;> grind

/-! ## The decision and the relation agree -/

private theorem smallerId_of_lt (less : a.id < b.id) : pickOlder.smallerId a b = a := by
  unfold pickOlder.smallerId
  rw [if_pos (Uuid.str_lt_str_iff.mpr less)]

private theorem smallerId_of_gt (less : b.id < a.id) : pickOlder.smallerId a b = b := by
  have notLess : ¬ a.id < b.id := Nat.lt_asymm less
  unfold pickOlder.smallerId
  rw [if_neg (mt Uuid.str_lt_str_iff.mp notLess), if_pos (Uuid.str_lt_str_iff.mpr less)]

theorem pickOlder_of_older (older : Older a b) : pickOlder a b = a := by
  unfold Older at older
  unfold pickOlder
  split at older
  next aDt bDt _ _ =>
    rcases older with less | ⟨tie, less⟩
    · simp [less, less.ne]
    · simp [tie, smallerId_of_lt less]
  · exact smallerId_of_lt older

theorem pickOlder_of_newer (newer : Older b a) : pickOlder a b = b := by
  unfold Older at newer
  unfold pickOlder
  cases aEq : a.createdAt <;> cases bEq : b.createdAt <;>
    simp [aEq, bEq] at newer ⊢
  · exact smallerId_of_gt newer
  · exact smallerId_of_gt newer
  · exact smallerId_of_gt newer
  · rcases newer with less | ⟨tie, less⟩
    · simp [less.ne', less.not_gt]
    · simp [tie, smallerId_of_gt less]

/-! ## Rows with a creation time -/

/-- Creation time, then id. -/
def age (created : Timestamp) (row : Row) : Lex (Timestamp × Nat) :=
  toLex (created, row.id.value)

theorem older_iff_age_lt {aDt bDt : Timestamp} (aCreated : a.createdAt = some aDt)
    (bCreated : b.createdAt = some bDt) :
    Older a b ↔ age aDt a < age bDt b := by
  simp [Older, aCreated, bCreated, age, Prod.Lex.toLex_lt_toLex, Uuid.lt_def]

/-- On rows that all have a creation time, `Older` is transitive. -/
theorem Older.trans {c : Row} (aDated : a.createdAt.isSome)
    (bDated : b.createdAt.isSome) (cDated : c.createdAt.isSome)
    (first : Older a b) (second : Older b c) : Older a c := by
  obtain ⟨aDt, aCreated⟩ := Option.isSome_iff_exists.mp aDated
  obtain ⟨bDt, bCreated⟩ := Option.isSome_iff_exists.mp bDated
  obtain ⟨cDt, cCreated⟩ := Option.isSome_iff_exists.mp cDated
  rw [older_iff_age_lt aCreated bCreated] at first
  rw [older_iff_age_lt bCreated cCreated] at second
  rw [older_iff_age_lt aCreated cCreated]
  exact first.trans second

end Caura.Memory
