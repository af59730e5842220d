import Mathlib.Data.List.Forall2
import Mathlib.Data.List.Induction

/-!
# Numbered hash chains

A chain is a list of rows.  Each row stores its number, the digest of the row
before it and its own digest, which is computed from its content and the digest
before it.  `Intact` says that the stored columns are the right ones, from a
first number and a first digest to a last digest.

Chains split at any point into two intact chains that share a digest, so that
checking a chain in pieces is checking it whole.  They are determined from the
back: when computing a digest can be inverted on the rows at hand, two intact
chains of one length that end in the same digest have the same contents.
-/

namespace Caura.Chain

open List

universe u v w

/-- The columns of a row, and how its digest is computed, if it can be. -/
structure Scheme (ρ : Type u) (δ : Type v) where
  number : ρ → Option Int
  previous : ρ → Option δ
  digest : ρ → Option δ
  compute : ρ → δ → Option δ

variable {ρ : Type u} {δ : Type v}

/-- The rows are numbered from `first` on, the first one stores `seed` as the
digest before it, and each later one stores the digest of the row before. -/
def Intact (scheme : Scheme ρ δ) : Int → δ → List ρ → δ → Prop
  | _, seed, [], last => last = seed
  | first, seed, row :: rows, last =>
    scheme.number row = some first ∧ scheme.previous row = some seed ∧
      ∃ digest, scheme.digest row = some digest ∧ scheme.compute row seed = some digest ∧
        Intact scheme (first + 1) digest rows last

namespace Intact

variable {scheme : Scheme ρ δ} {first : Int} {seed last : δ}

@[simp]
theorem nil_iff : Intact scheme first seed [] last ↔ last = seed :=
  .rfl

variable {rows : List ρ} {row : ρ}

theorem cons_iff : Intact scheme first seed (row :: rows) last ↔
      scheme.number row = some first ∧ scheme.previous row = some seed ∧
        ∃ digest, scheme.digest row = some digest ∧ scheme.compute row seed = some digest ∧
          Intact scheme (first + 1) digest rows last :=
  .rfl

/-- A chain is intact exactly when both parts of a split are, the second one
from the digest where the first one ends. -/
theorem append_iff {more : List ρ} : Intact scheme first seed (rows ++ more) last ↔
      ∃ middle, Intact scheme first seed rows middle ∧
        Intact scheme (first + rows.length) middle more last := by
  induction rows generalizing first seed with
  | nil => simp
  | cons row rows ih =>
    have shift : first + 1 + (rows.length : Int) =
        first + ((row :: rows).length : Int) := by
      rw [length_cons]
      omega
    simp only [cons_append, cons_iff, ih, shift]
    constructor
    · rintro ⟨numbered, linked, digest, stored, computed, middle, before, after⟩
      exact ⟨middle, ⟨numbered, linked, digest, stored, computed, before⟩, after⟩
    · rintro ⟨middle, ⟨numbered, linked, digest, stored, computed, before⟩, after⟩
      exact ⟨numbered, linked, digest, stored, computed, middle, before, after⟩

theorem concat_iff : Intact scheme first seed (rows ++ [row]) last ↔
      ∃ middle, Intact scheme first seed rows middle ∧
        scheme.number row = some (first + rows.length) ∧
        scheme.previous row = some middle ∧ scheme.digest row = some last ∧
        scheme.compute row middle = some last := by
  simp only [append_iff]
  constructor
  · rintro ⟨middle, before, numbered, linked, digest, stored, computed, rfl⟩
    exact ⟨middle, before, numbered, linked, stored, computed⟩
  · rintro ⟨middle, before, numbered, linked, stored, computed⟩
    exact ⟨middle, before, numbered, linked, last, stored, computed, rfl⟩

/-- The rows and the seed determine where a chain ends. -/
theorem last_unique {other : δ} (intact : Intact scheme first seed rows last)
    (again : Intact scheme first seed rows other) : last = other := by
  induction rows generalizing first seed with
  | nil => exact intact.trans again.symm
  | cons row rows ih =>
    obtain ⟨_, _, digest, stored, _, after⟩ := intact
    obtain ⟨_, _, digest', stored', _, after'⟩ := again
    cases stored.symm.trans stored'
    exact ih after after'

/-- Rows of two forms with the same columns form the same chain. -/
theorem of_forall₂ {ρ' : Type w} {other : Scheme ρ' δ} {others : List ρ'}
    (sameColumns : List.Forall₂ (fun row row' =>
      scheme.number row = other.number row' ∧ scheme.previous row = other.previous row' ∧
        scheme.digest row = other.digest row' ∧
        scheme.compute row = other.compute row') rows others)
    (intact : Intact scheme first seed rows last) :
    Intact other first seed others last := by
  induction sameColumns generalizing first seed with
  | nil => exact intact
  | cons columns _ ih =>
    obtain ⟨numberEq, previousEq, digestEq, computeEq⟩ := columns
    obtain ⟨numbered, linked, digest, stored, computed, after⟩ := intact
    exact ⟨numberEq ▸ numbered, previousEq ▸ linked, digest, digestEq ▸ stored,
      computeEq ▸ computed, ih after⟩

section

variable (intact : Intact scheme first seed rows last)

include intact

/-- No row of an intact chain is numbered below the first. -/
theorem number_ge (rowMem : row ∈ rows) :
    ∃ number, scheme.number row = some number ∧ first ≤ number := by
  induction rows generalizing first seed with
  | nil => simp at rowMem
  | cons head rows ih =>
    obtain ⟨numbered, _, digest, _, _, after⟩ := intact
    rcases mem_cons.mp rowMem with rfl | rowMem
    · exact ⟨first, numbered, Int.le_refl first⟩
    · obtain ⟨number, rowNumber, above⟩ := ih after rowMem
      exact ⟨number, rowNumber, by omega⟩

/-- The numbers of an intact chain increase. -/
theorem pairwise_number : rows.Pairwise fun before after =>
      ∃ m n, scheme.number before = some m ∧ scheme.number after = some n ∧ m < n := by
  induction rows generalizing first seed with
  | nil => exact List.Pairwise.nil
  | cons row rows ih =>
    obtain ⟨numbered, _, digest, _, _, after⟩ := intact
    refine List.Pairwise.cons ?_ (ih after)
    intro later laterMem
    obtain ⟨number, laterNumber, above⟩ := number_ge after laterMem
    exact ⟨first, number, numbered, laterNumber, by omega⟩

/-- The numbers of an intact chain. -/
theorem number_eq {index : Nat} (found : rows[index]? = some row) :
    scheme.number row = some (first + index) := by
  induction rows generalizing first seed index with
  | nil => simp at found
  | cons head rows ih =>
    obtain ⟨numbered, _, digest, _, _, after⟩ := intact
    cases index with
    | zero =>
      cases found
      simpa using numbered
    | succ index =>
      rw [ih after found]
      congr 1
      omega

end

/-- What holds of the seed and of every computed digest holds of the digests that
the rows store as the ones before them. -/
theorem previous_property (Holds : δ → Prop) (intact : Intact scheme first seed rows last)
    (ofSeed : Holds seed)
    (ofComputed : ∀ row before digest, scheme.compute row before = some digest → Holds digest)
    {before : δ} (rowMem : row ∈ rows) (linkedTo : scheme.previous row = some before) :
    Holds before := by
  induction rows generalizing first seed with
  | nil => simp at rowMem
  | cons head rows ih =>
    obtain ⟨_, linked, digest, _, computed, after⟩ := intact
    rcases mem_cons.mp rowMem with rfl | rowMem
    · cases linked.symm.trans linkedTo
      exact ofSeed
    · exact ih after (ofComputed head seed digest computed) rowMem

/-- A chain that is not empty ends in the digest its last row stores. -/
theorem getLast_digest (intact : Intact scheme first seed rows last)
    (isLast : rows.getLast? = some row) :
    scheme.digest row = some last ∧ scheme.number row = some (first + rows.length - 1) := by
  induction rows using List.reverseRecOn with
  | nil => simp at isLast
  | append_singleton rows other _ =>
    rw [List.getLast?_concat] at isLast
    cases isLast
    obtain ⟨middle, _, numbered, _, stored, _⟩ := concat_iff.mp intact
    refine ⟨stored, ?_⟩
    rw [numbered, length_append, length_singleton]
    congr 1
    omega

/-- Two intact chains of one length that end in the same digest agree row by row,
as far as equal digests tell rows and the digests before them apart. -/
theorem forall₂_of_last_eq {Agrees : ρ → ρ → Prop} {others : List ρ}
    (separates : ∀ row ∈ rows, ∀ other ∈ others, ∀ before before' digest,
      scheme.number row = scheme.number other →
      scheme.previous row = some before → scheme.previous other = some before' →
      scheme.compute row before = some digest →
      scheme.compute other before' = some digest → Agrees row other ∧ before = before')
    (intact : Intact scheme first seed rows last) (other : Intact scheme first seed others last)
    (sameLength : rows.length = others.length) : List.Forall₂ Agrees rows others := by
  -- From the back: equal last digests give equal rows and equal digests before
  -- them, in which the shorter chains end.
  induction rows using List.reverseRecOn generalizing others last with
  | nil =>
    rw [length_nil, eq_comm, length_eq_zero_iff] at sameLength
    rw [sameLength]
    exact List.Forall₂.nil
  | append_singleton rows row ih =>
    rcases eq_nil_or_concat' others with rfl | ⟨front, final, rfl⟩
    · simp at sameLength
    · have frontLength : rows.length = front.length := by simpa using sameLength
      rcases concat_iff.mp intact with
        ⟨middle, before, numbered, linked, _, computed⟩
      rcases concat_iff.mp other with
        ⟨middle', before', numbered', linked', _, computed'⟩
      have sameNumber : scheme.number row = scheme.number final := by
        rw [numbered, numbered', frontLength]
      rcases separates row (by simp) final (by simp) middle middle' last
        sameNumber linked linked' computed computed' with ⟨agrees, rfl⟩
      refine rel_append (ih ?_ before before' frontLength)
        (List.Forall₂.cons agrees List.Forall₂.nil)
      intro row rowMem other otherMem
      exact separates row (mem_append_left _ rowMem) other (mem_append_left _ otherMem)

end Intact

end Caura.Chain
