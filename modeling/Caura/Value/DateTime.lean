import Mathlib.Algebra.Group.Nat.Defs
import Mathlib.Tactic.Common

/-!
# Instants and their UTC text

An instant is a number of microseconds since the epoch that Python's `datetime`
can hold.  `Instant.utc` gives its fields in the proleptic Gregorian calendar,
with years counted from March so that the leap day ends its year, and
`Fields.text` prints them with `%Y-%m-%dT%H:%M:%S.%f`.  An instant is
determined by its text.
-/

namespace Caura.Value

/-- A time in microseconds. -/
abbrev Time := Int

/-- An instant between the years 1 and 9999. -/
structure Instant where
  micros : Int
  lower : -62135596800000000 ≤ micros
  upper : micros < 253402300800000000
  deriving DecidableEq, Repr

namespace Instant

variable {a b : Instant}

theorem ext_micros (microsEq : a.micros = b.micros) : a = b := by
  cases a
  cases b
  cases microsEq
  rfl

/-- The start of 1970. -/
def epoch : Instant :=
  ⟨0, by decide, by decide⟩

/-! ## Calendar -/

/-- Calendar fields. -/
structure Fields where
  year : Nat
  month : Nat
  day : Nat
  hour : Nat
  minute : Nat
  second : Nat
  microsecond : Nat
  deriving DecidableEq, Repr

/-- A day within a cycle of 400 years that starts on 1 March: the year of the
cycle and the day of that year. -/
def yearOfCycle (day : Int) : Int × Int :=
  let centuries := min (day / 36524) 3
  let inCentury := day - 36524 * centuries
  let fours := inCentury / 1461
  let inFour := inCentury - 1461 * fours
  let years := min (inFour / 365) 3
  (100 * centuries + 4 * fours + years, inFour - 365 * years)

/-- The year that starts on 1 March and the day of it, for a day since the
epoch. -/
def marchYear (day : Int) : Int × Int :=
  let shifted := day + 719468
  let inCycle := yearOfCycle (shifted % 146097)
  (400 * (shifted / 146097) + inCycle.1, inCycle.2)

/-- The month counted from March, for a day of the year. -/
def marchMonth (dayOfYear : Int) : Int :=
  (5 * dayOfYear + 2) / 153

/-- The fields of the instant in UTC. -/
def utc (instant : Instant) : Fields :=
  let march := marchYear (instant.micros / 86400000000)
  let month := marchMonth march.2
  let ofDay := (instant.micros % 86400000000).toNat
  { year := (if month < 10 then march.1 else march.1 + 1).toNat
    month := (if month < 10 then month + 3 else month - 9).toNat
    day := (march.2 - (153 * month + 2) / 5 + 1).toNat
    hour := ofDay / 3600000000
    minute := ofDay / 60000000 % 60
    second := ofDay / 1000000 % 60
    microsecond := ofDay % 1000000 }

example : (Instant.mk 1709210096000007 (by decide) (by decide)).utc =
    ⟨2024, 2, 29, 12, 34, 56, 7⟩ := by
  decide

theorem yearOfCycle_spec {day : Int} (nonneg : 0 ≤ day) (below : day < 146097) :
    0 ≤ (yearOfCycle day).1 ∧ (yearOfCycle day).1 < 400 ∧
      0 ≤ (yearOfCycle day).2 ∧ (yearOfCycle day).2 ≤ 365 ∧
      day = 365 * (yearOfCycle day).1 + (yearOfCycle day).1 / 4 -
        (yearOfCycle day).1 / 100 + (yearOfCycle day).2 := by
  -- Year `100 c + 4 f + y` of the cycle, counted in centuries, fours and years.
  have split : ∃ c f y, 0 ≤ c ∧ c ≤ 3 ∧ 0 ≤ f ∧ f ≤ 24 ∧ 0 ≤ y ∧ y ≤ 3 ∧
      0 ≤ day - 36524 * c - 1461 * f - 365 * y ∧
      day - 36524 * c - 1461 * f - 365 * y ≤ 365 ∧
      yearOfCycle day = (100 * c + 4 * f + y, day - 36524 * c - 1461 * f - 365 * y) :=
    ⟨_, _, _, by omega, by omega, by omega, by omega, by omega, by omega, by omega, by omega, rfl⟩
  rcases split with ⟨c, f, y, _, _, _, _, _, _, _, _, yearEq⟩
  have fours : (100 * c + 4 * f + y) / 4 = 25 * c + f := by omega
  rw [yearEq, fours]
  omega

theorem marchYear_spec (day : Int) : 0 ≤ (marchYear day).2 ∧ (marchYear day).2 ≤ 365 ∧
      day + 719468 = 146097 * ((marchYear day).1 / 400) +
        (365 * ((marchYear day).1 % 400) + (marchYear day).1 % 400 / 4 -
          (marchYear day).1 % 400 / 100 + (marchYear day).2) := by
  have spec := yearOfCycle_spec (Int.emod_nonneg (day + 719468) (by decide))
    (Int.emod_lt_of_pos (day + 719468) (by decide))
  unfold marchYear
  dsimp only
  generalize yearOfCycle ((day + 719468) % 146097) = inCycle at spec ⊢
  have rest : (400 * ((day + 719468) / 146097) + inCycle.1) % 400 = inCycle.1 := by
    omega
  rw [rest]
  omega

/-- Year, month and day determine the year from March and the day of it. -/
theorem march_eq_of_fields {y d y' d' : Int} (yNonneg : 0 ≤ y) (yNonneg' : 0 ≤ y')
    (dNonneg : 0 ≤ d) (dLe : d ≤ 365) (dNonneg' : 0 ≤ d') (dLe' : d' ≤ 365)
    (yearEq : (if marchMonth d < 10 then y else y + 1).toNat =
      (if marchMonth d' < 10 then y' else y' + 1).toNat)
    (monthEq : (if marchMonth d < 10 then marchMonth d + 3
        else marchMonth d - 9).toNat =
      (if marchMonth d' < 10 then marchMonth d' + 3 else marchMonth d' - 9).toNat)
    (dayEq : (d - (153 * marchMonth d + 2) / 5 + 1).toNat =
      (d' - (153 * marchMonth d' + 2) / 5 + 1).toNat) : y = y' ∧ d = d' := by
  have low : 0 ≤ marchMonth d ∧ marchMonth d ≤ 11 := by
    unfold marchMonth
    omega
  have dayPos : 1 ≤ d - (153 * marchMonth d + 2) / 5 + 1 := by
    unfold marchMonth
    omega
  refine ⟨?_, by omega⟩
  split at yearEq <;> omega

theorem marchYear_nonneg (instant : Instant) :
    0 ≤ (marchYear (instant.micros / 86400000000)).1 := by
  have lower := instant.lower
  have spec := yearOfCycle_spec
    (Int.emod_nonneg (instant.micros / 86400000000 + 719468) (by decide))
    (Int.emod_lt_of_pos (instant.micros / 86400000000 + 719468) (by decide))
  unfold marchYear
  dsimp only
  omega

/-- The fields of a time of day determine it. -/
theorem ofDay_eq (n : Nat) : n = 3600000000 * (n / 3600000000) + 60000000 * (n / 60000000 % 60) +
      1000000 * (n / 1000000 % 60) + n % 1000000 := by
  have hours : n / 60000000 / 60 = n / 3600000000 := Nat.div_div_eq_div_mul ..
  omega

/-- An instant is determined by its fields. -/
theorem utc_injective (fieldsEq : a.utc = b.utc) : a = b := by
  have aMarch := marchYear_spec (a.micros / 86400000000)
  have bMarch := marchYear_spec (b.micros / 86400000000)
  simp only [utc, Fields.mk.injEq] at fieldsEq
  obtain ⟨yearEq, monthEq, dayEq, hourEq, minuteEq, secondEq, microEq⟩ := fieldsEq
  rcases march_eq_of_fields (marchYear_nonneg a) (marchYear_nonneg b) aMarch.1
    aMarch.2.1 bMarch.1 bMarch.2.1 yearEq monthEq dayEq with ⟨sameYear, sameDay⟩
  have times : (a.micros % 86400000000).toNat = (b.micros % 86400000000).toNat := by
    rw [ofDay_eq (a.micros % 86400000000).toNat,
      ofDay_eq (b.micros % 86400000000).toNat, hourEq, minuteEq, secondEq, microEq]
  apply ext_micros
  omega

/-! ## Text -/

/-- The last `width` decimal digits of a number. -/
def digits : Nat → Nat → List Char
  | 0, _ => []
  | width + 1, n => digits width (n / 10) ++ [Nat.digitChar (n % 10)]

@[simp]
theorem length_digits (width n : Nat) : (digits width n).length = width := by
  induction width generalizing n with
  | zero => rfl
  | succ width ih => simp [digits, ih]

variable {m n width : Nat}

theorem digitChar_inj (mLt : m < 10) (nLt : n < 10) (charEq : Nat.digitChar m = Nat.digitChar n) :
    m = n := by
  have codes := congrArg Char.toNat charEq
  rw [Nat.toNat_digitChar_of_lt_ten mLt, Nat.toNat_digitChar_of_lt_ten nLt] at codes
  omega

theorem digits_inj (mLt : m < 10 ^ width) (nLt : n < 10 ^ width)
    (digitsEq : digits width m = digits width n) : m = n := by
  induction width generalizing m n with
  | zero => omega
  | succ width ih =>
    obtain ⟨front, last⟩ := List.append_inj' digitsEq rfl
    have quotients := ih (by omega) (by omega) front
    have remainders := digitChar_inj (Nat.mod_lt m (by decide))
      (Nat.mod_lt n (by decide)) (List.singleton_inj.mp last)
    omega

/-- `strftime("%Y-%m-%dT%H:%M:%S.%f")`, which pads the year. -/
def Fields.text (fields : Fields) : List Char :=
  digits 4 fields.year ++ '-' :: (digits 2 fields.month ++
    '-' :: (digits 2 fields.day ++ 'T' :: (digits 2 fields.hour ++
      ':' :: (digits 2 fields.minute ++ ':' :: (digits 2 fields.second ++
        '.' :: digits 6 fields.microsecond)))))

/-- The fields fit their columns. -/
structure Fields.Printable (fields : Fields) : Prop where
  year : fields.year < 10 ^ 4
  month : fields.month < 10 ^ 2
  day : fields.day < 10 ^ 2
  hour : fields.hour < 10 ^ 2
  minute : fields.minute < 10 ^ 2
  second : fields.second < 10 ^ 2
  microsecond : fields.microsecond < 10 ^ 6

theorem utc_printable (instant : Instant) : instant.utc.Printable := by
  have lastDay : instant.micros / 86400000000 < 2932897 := by
    have upper := instant.upper
    omega
  obtain ⟨nonneg, below, dayEq⟩ := marchYear_spec (instant.micros / 86400000000)
  generalize marchEq : marchYear (instant.micros / 86400000000) = march at *
  constructor <;> simp only [utc, marchEq, marchMonth]
  · split <;> omega
  · split <;> omega
  · omega
  · omega
  · omega
  · omega
  · omega

/-- One column of fixed width and the character after it. -/
theorem column_inj {separator : Char} {back back' : List Char} (mLt : m < 10 ^ width)
    (nLt : n < 10 ^ width) (textEq : digits width m ++ separator :: back =
      digits width n ++ separator :: back') : m = n ∧ back = back' := by
  obtain ⟨front, rest⟩ := List.append_inj textEq (by simp)
  exact ⟨digits_inj mLt nLt front, (List.cons.inj rest).2⟩

theorem Fields.text_inj {a b : Fields} (aPrintable : a.Printable)
    (bPrintable : b.Printable) (textEq : a.text = b.text) : a = b := by
  rcases column_inj aPrintable.year bPrintable.year textEq with ⟨yearEq, textEq⟩
  rcases column_inj aPrintable.month bPrintable.month textEq with ⟨monthEq, textEq⟩
  rcases column_inj aPrintable.day bPrintable.day textEq with ⟨dayEq, textEq⟩
  rcases column_inj aPrintable.hour bPrintable.hour textEq with ⟨hourEq, textEq⟩
  rcases column_inj aPrintable.minute bPrintable.minute textEq with
    ⟨minuteEq, textEq⟩
  rcases column_inj aPrintable.second bPrintable.second textEq with
    ⟨secondEq, textEq⟩
  have microEq := digits_inj aPrintable.microsecond bPrintable.microsecond textEq
  cases a
  cases b
  exact (Fields.mk.injEq ..).mpr ⟨yearEq, monthEq, dayEq, hourEq, minuteEq, secondEq, microEq⟩

/-- An instant is determined by its text. -/
theorem text_injective (textEq : a.utc.text = b.utc.text) : a = b :=
  utc_injective (Fields.text_inj (utc_printable a) (utc_printable b) textEq)

/-- `isoformat()` of a time in UTC, which drops a fraction of zero. -/
def Fields.isoformat (fields : Fields) : List Char :=
  (if fields.microsecond = 0 then fields.text.take 19 else fields.text) ++
    ['+', '0', '0', ':', '0', '0']

end Instant

end Caura.Value
