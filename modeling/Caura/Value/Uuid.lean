import Mathlib.Data.String.Basic

/-!
# UUIDs and their text form

A UUID is a 128-bit number.  `Uuid.str` is its canonical text: 32 lower-case
hexadecimal digits, most significant first, in groups of 8-4-4-4-12 separated
by hyphens.

The core compares ids as text and the database compares them as numbers.
`Uuid.str_lt_str_iff` says that the two orders agree, because every text has
the same length and its hyphens at the same places.
-/

namespace Caura.Value

/-- A 128-bit identifier. -/
structure Uuid where
  value : Nat
  isLt : value < 2 ^ 128
  deriving DecidableEq, Repr

namespace Uuid

/-- The UUID with a given number, of which the last 128 bits count. -/
def ofNat (value : Nat) : Uuid :=
  ⟨value % 2 ^ 128, Nat.mod_lt value (Nat.two_pow_pos 128)⟩

theorem ext_value {a b : Uuid} (valueEq : a.value = b.value) : a = b := by
  cases a
  cases b
  cases valueEq
  rfl

instance : LT Uuid where
  lt a b := a.value < b.value

instance (a b : Uuid) : Decidable (a < b) :=
  inferInstanceAs (Decidable (a.value < b.value))

theorem lt_def {a b : Uuid} : a < b ↔ a.value < b.value :=
  .rfl

/-! ## Text -/

/-- The lower-case hexadecimal digit of a number below 16. -/
def hexDigit (n : Nat) : Char :=
  ['0', '1', '2', '3', '4', '5', '6', '7', '8', '9', 'a', 'b', 'c', 'd', 'e', 'f'].getD n '0'

variable {m n a b p : Nat}

theorem hexDigit_lt_hexDigit_iff (mLt : m < 16) (nLt : n < 16) :
    hexDigit m < hexDigit n ↔ m < n := by
  have table : ∀ i : Fin 16, ∀ j : Fin 16, hexDigit i < hexDigit j ↔ i.val < j.val := by
    decide
  exact table ⟨m, mLt⟩ ⟨n, nLt⟩

theorem hexDigit_inj (mLt : m < 16) (nLt : n < 16) : hexDigit m = hexDigit n ↔ m = n := by
  have table : ∀ i : Fin 16, ∀ j : Fin 16, hexDigit i = hexDigit j ↔ i.val = j.val := by
    decide
  exact table ⟨m, mLt⟩ ⟨n, nLt⟩

/-- Render a number along a template: `true` is a hexadecimal digit, `false` a
hyphen.  Digits go from the most significant to the least. -/
def render : List Bool → Nat → List Char
  | [], _ => []
  | false :: template, n => '-' :: render template n
  | true :: template, n =>
    hexDigit (n / 16 ^ template.count true) :: render template (n % 16 ^ template.count true)

/-- The groups 8-4-4-4-12 of a UUID's text. -/
def template : List Bool :=
  List.replicate 8 true ++ false :: List.replicate 4 true ++
    false :: List.replicate 4 true ++ false :: List.replicate 4 true ++
      false :: List.replicate 12 true

/-- The canonical text of a UUID. -/
def str (id : Uuid) : String :=
  String.ofList (render template id.value)

private theorem lt_iff_div_mod : a < b ↔ a / p < b / p ∨ a / p = b / p ∧ a % p < b % p := by
  have aSplit := Nat.div_add_mod a p
  have bSplit := Nat.div_add_mod b p
  constructor
  · intro less
    rcases Nat.lt_or_eq_of_le (Nat.div_le_div_right (c := p) less.le) with
      quotient | quotient
    · exact .inl quotient
    · rw [quotient] at aSplit
      exact .inr ⟨quotient, by omega⟩
  · rintro (quotient | ⟨quotient, remainder⟩)
    · exact Nat.lt_of_div_lt_div quotient
    · rw [quotient] at aSplit
      omega

/-- Lexicographic order of renderings along one template is numeric order. -/
theorem render_lt_render_iff (shape : List Bool) (aLt : a < 16 ^ shape.count true)
    (bLt : b < 16 ^ shape.count true) : render shape a < render shape b ↔ a < b := by
  induction shape generalizing a b with
  | nil =>
    have aZero : a = 0 := by simpa using aLt
    have bZero : b = 0 := by simpa using bLt
    simp [aZero, bZero]
  | cons isDigit shape ih =>
    cases isDigit with
    | false =>
      have aLt' : a < 16 ^ shape.count true := by simpa using aLt
      have bLt' : b < 16 ^ shape.count true := by simpa using bLt
      rw [render, render, List.cons_lt_cons_iff, ih aLt' bLt']
      simp
    | true =>
      have positive : 0 < 16 ^ shape.count true :=
        Nat.pow_pos (by decide)
      have width : 16 ^ (true :: shape).count true = 16 * 16 ^ shape.count true := by
        rw [List.count_cons_self, pow_succ, Nat.mul_comm]
      rw [width] at aLt bLt
      have aDigit : a / 16 ^ shape.count true < 16 :=
        (Nat.div_lt_iff_lt_mul positive).mpr aLt
      have bDigit : b / 16 ^ shape.count true < 16 :=
        (Nat.div_lt_iff_lt_mul positive).mpr bLt
      rw [render, render, List.cons_lt_cons_iff, ih (Nat.mod_lt _ positive) (Nat.mod_lt _ positive),
        hexDigit_lt_hexDigit_iff aDigit bDigit,
        hexDigit_inj aDigit bDigit]
      exact lt_iff_div_mod.symm

/-- Text order and numeric order of UUIDs agree. -/
theorem str_lt_str_iff {a b : Uuid} : a.str < b.str ↔ a < b := by
  have width : 16 ^ template.count true = 2 ^ 128 := by
    decide
  rw [String.lt_iff_toList_lt, str, str, String.toList_ofList, String.toList_ofList]
  exact render_lt_render_iff template (width ▸ a.isLt) (width ▸ b.isLt)

/-- A UUID is determined by its text. -/
theorem str_inj {a b : Uuid} : a.str = b.str ↔ a = b := by
  constructor
  · intro strEq
    apply ext_value
    rcases Nat.lt_trichotomy a.value b.value with less | equal | greater
    · exact absurd (str_lt_str_iff.mpr less) (strEq ▸ lt_irrefl _)
    · exact equal
    · exact absurd (str_lt_str_iff.mpr greater) (strEq ▸ lt_irrefl _)
  · rintro rfl
    rfl

end Uuid

end Caura.Value
