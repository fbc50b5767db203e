import SoundGrid.Proofs.Number.Product

/-!
# The accuracy of doubles

Rounding moves a number by at most half a unit of its place.  Unless the number
is very small this is a fixed part of it, which depends on the length of the
mantissa only.  Natural numbers that fit the mantissa are not moved at all.

A quotient of natural numbers that is not whole keeps a distance from all whole
numbers, by one part of the divisor at least.  If the dividend fits the mantissa
this is more than rounding can move the quotient, so the whole part of the
rounded quotient is that of the exact one.  Two roundings move it somewhat
further, and still its ceiling is right unless the exact quotient is whole.
-/

namespace SoundGrid.Number

open Float.Model (Format)

/-! ## Errors -/

section Errors

variable {format : Format} {number rounded : ℝ}

/--
Rounding moves a number by a fixed part of it, or by half of the least unit.
-/
theorem IsRounding.abs_sub_le (rounding : IsRounding format number rounded) :
    |rounded - number| ≤
      max (number / 2 ^ format.mantissaBits)
        (1 / 2 * 2 ^ format.minExponent) := by
  rcases rounding with ⟨place, whole, isPlace, nearest, rfl⟩
  have moved : (whole : ℝ) * 2 ^ place - number =
      (whole - number * 2 ^ (-place)) * 2 ^ place := by
    rw [sub_mul, mul_assoc number, ← zpow_add₀ two_ne_zero, neg_add_cancel,
      zpow_zero, mul_one]
  have half : |(whole : ℝ) - number * 2 ^ (-place)| ≤ 1 / 2 := by
    rw [abs_le]
    constructor
    · linarith [nearest.notBelow]
    · linarith [nearest.notAbove]
  have bounded : |(whole : ℝ) * 2 ^ place - number| ≤ 1 / 2 * 2 ^ place := by
    rw [moved, abs_mul, abs_of_pos (by positivity : (0 : ℝ) < 2 ^ place)]
    exact mul_le_mul_of_nonneg_right half (by positivity)
  rcases isPlace.least.eq_or_lt with same | beyond
  · rw [same]
    exact bounded.trans (le_max_right _ _)
  · refine (bounded.trans ?_).trans (le_max_left _ _)
    have unit : (2 : ℝ) ^ (format.mantissaBits + place - 1) =
        1 / 2 * 2 ^ place * 2 ^ format.mantissaBits := by
      rw [zpow_sub₀ two_ne_zero, zpow_add₀ two_ne_zero, zpow_natCast, zpow_one]
      ring
    rw [le_div_iff₀ (by positivity), ← unit]
    exact isPlace.full beyond

theorem IsRounding.notNegative
    (rounding : IsRounding format number rounded) : 0 ≤ rounded := by
  rcases rounding with ⟨place, whole, -, -, rfl⟩
  positivity

/--
In the format of doubles half of the least unit only counts below the normal
numbers.
-/
theorem IsRounding.abs_sub_le_of_normal
    (rounding : IsRounding .binary64 number rounded)
    (normal : 2 ^ (-1022 : ℤ) ≤ number) :
    |rounded - number| ≤ number / 2 ^ 53 := by
  have bits : Format.binary64.mantissaBits = 53 := by decide
  have least : Format.binary64.minExponent = -1074 := by decide
  have moved := rounding.abs_sub_le
  rw [bits, least] at moved
  refine moved.trans (max_le (le_refl _) ?_)
  have unit : (1 / 2 * 2 ^ (-1074 : ℤ) : ℝ) * 2 ^ 53 = 2 ^ (-1022 : ℤ) := by
    rw [one_div, ← zpow_neg_one, ← zpow_natCast, ← zpow_add₀ two_ne_zero,
      ← zpow_add₀ two_ne_zero]
    congr 1
  rw [le_div_iff₀ (by positivity), unit]
  exact normal

/-- A number has one rounding only. -/
theorem IsRounding.unique {other : ℝ}
    (rounding : IsRounding format number rounded)
    (again : IsRounding format number other) : rounded = other :=
  le_antisymm (rounding.mono again (le_refl _))
    (again.mono rounding (le_refl _))

/-- Natural numbers that fit the mantissa are rounded to themselves. -/
theorem IsRounding.eq_natCast {natural : ℕ}
    (fits : natural < 2 ^ format.mantissaBits) (unit : format.minExponent ≤ 0)
    (rounding : IsRounding format natural rounded) : rounded = natural := by
  have whole : (natural : ℝ) = units natural 0 := by
    rw [units, zpow_zero, mul_one]
  rw [whole] at rounding ⊢
  refine rounding.eq_of_units fun place isPlace => ?_
  by_contra beyond
  have positive : 0 < place := not_le.mp beyond
  have full := isPlace.full (unit.trans_lt positive)
  rw [← whole] at full
  have long : (2 : ℝ) ^ format.mantissaBits ≤ natural := by
    rw [← zpow_natCast]
    exact (zpow_le_zpow_right₀ one_le_two (by omega)).trans full
  have short : (natural : ℝ) < 2 ^ format.mantissaBits := by exact_mod_cast fits
  exact absurd long (not_le.mpr short)

/-- What a number that is not negative is rounded to is a rounding of it. -/
theorem Unpacked.RoundsTo.isRounding
    (rounds : RoundsTo format (number : EReal) (rounded : EReal))
    (notNegative : 0 ≤ number) : IsRounding format number rounded := by
  rcases rounds with
    ⟨sign, magnitude, roundedMagnitude, roundsMagnitude, rank, roundedRank⟩
  cases roundsMagnitude with
  | infinite =>
      cases sign
      · exact absurd rank (EReal.coe_ne_bot number)
      · exact absurd rank (EReal.coe_ne_top number)
  | @finite magnitude roundedMagnitude magnitudeNotNegative rounding =>
      rw [signed_coe, EReal.coe_eq_coe_iff] at rank roundedRank
      cases sign with
      | positive =>
          rw [rank, roundedRank]
          exact rounding
      | negative =>
          -- Of the numbers that are not negative only zero has a magnitude with
          -- this sign.
          have zero : IsRounding format 0 0 :=
            isRounding_zero_of_small (le_refl 0) (by positivity)
          rw [withSign] at rank roundedRank
          have nothing : magnitude = 0 := by linarith
          rw [nothing] at rounding rank
          rw [roundedRank, rank, rounding.unique zero, neg_zero]
          exact zero

end Errors

/-! ## Two roundings -/

/--
A product of a rounded number, rounded as well, is not far from the exact
product.
-/
theorem abs_sub_le_of_roundings {first second rounded product : ℝ}
    (normal : 2 ^ (-1000 : ℤ) ≤ first) (atLeastOne : 1 ≤ second)
    (firstRounding : IsRounding .binary64 first rounded)
    (productRounding : IsRounding .binary64 (rounded * second) product) :
    |product - first * second| ≤ first * second / 2 ^ 51 := by
  have unit : (2 : ℝ) ^ (-1022 : ℤ) ≤ 2 ^ (-1001 : ℤ) :=
    zpow_le_zpow_right₀ one_le_two (by omega)
  have half : (2 : ℝ) ^ (-1001 : ℤ) = 2 ^ (-1000 : ℤ) / 2 := by
    rw [show (-1001 : ℤ) = -1000 - 1 by rfl, zpow_sub_one₀ two_ne_zero,
      div_eq_mul_inv]
  have positive : (0 : ℝ) < 2 ^ (-1000 : ℤ) := by positivity
  have firstError := firstRounding.abs_sub_le_of_normal (by linarith)
  have atLeast : first / 2 ≤ rounded := by linarith [(abs_le.mp firstError).1]
  have scaled :
      |rounded * second - first * second| ≤ first * second / 2 ^ 53 := by
    rw [← sub_mul, abs_mul, abs_of_nonneg (by linarith : (0 : ℝ) ≤ second),
      mul_div_right_comm]
    exact mul_le_mul_of_nonneg_right firstError (by linarith)
  have large : first / 2 ≤ rounded * second :=
    atLeast.trans (le_mul_of_one_le_right (by linarith) atLeastOne)
  have productError := productRounding.abs_sub_le_of_normal (by linarith)
  rw [abs_le] at scaled productError ⊢
  constructor
  · linarith
  · linarith

/--
What is near to a quotient with a small dividend has a ceiling that is near to
it.
-/
theorem ceil_eq_of_near {dividend divisor : ℕ} {near : ℝ}
    (positive : 0 < divisor) (small : dividend < 2 ^ 50)
    (error : |near - dividend / divisor| ≤ (dividend / divisor : ℝ) / 2 ^ 51) :
    (divisor ∣ dividend ∧ near ≤ dividend / divisor →
      ⌈near⌉ = ((dividend / divisor : ℕ) : ℤ)) ∧
      (¬ (divisor ∣ dividend ∧ near ≤ dividend / divisor) →
        ⌈near⌉ = ((dividend / divisor : ℕ) : ℤ) + 1) := by
  have divisorReal : (0 : ℝ) < divisor := by exact_mod_cast positive
  have smallReal : (dividend : ℝ) < 2 ^ 50 := by exact_mod_cast small
  have short : (dividend / divisor : ℝ) / 2 ^ 51 < 1 / divisor := by
    rw [div_right_comm]
    exact div_lt_div_of_pos_right (by rw [div_lt_one (by positivity)]; linarith)
      divisorReal
  have one : (1 / divisor : ℝ) ≤ 1 := by
    rw [div_le_one divisorReal]
    exact_mod_cast positive
  rcases abs_le.mp error with ⟨below, above⟩
  by_cases whole : divisor ∣ dividend
  · have exact : (dividend / divisor : ℝ) = ((dividend / divisor : ℕ) : ℝ) :=
      (Nat.cast_div whole divisorReal.ne').symm
    rw [exact] at below above short ⊢
    constructor
    · rintro ⟨-, notAbove⟩
      rw [Int.ceil_eq_iff, Int.cast_natCast]
      exact ⟨by linarith, notAbove⟩
    · intro beyond
      have atLeast : ((dividend / divisor : ℕ) : ℝ) < near :=
        not_le.mp fun notAbove => beyond ⟨whole, notAbove⟩
      rw [Int.ceil_eq_iff, Int.cast_add, Int.cast_natCast, Int.cast_one]
      exact ⟨by linarith, by linarith⟩
  · refine ⟨fun impossible => absurd impossible.1 whole, fun _ => ?_⟩
    have remainder : 0 < dividend % divisor :=
      Nat.pos_of_ne_zero fun zero => whole (Nat.dvd_of_mod_eq_zero zero)
    have split := Nat.div_add_mod dividend divisor
    have remainderShort := Nat.mod_lt dividend positive
    have low :
        ((dividend / divisor : ℕ) : ℝ) + 1 / divisor ≤ dividend / divisor := by
      rw [le_div_iff₀ divisorReal, add_mul, one_div_mul_cancel divisorReal.ne',
        mul_comm]
      exact_mod_cast (by omega : divisor * (dividend / divisor) + 1 ≤ dividend)
    have high : (dividend / divisor : ℝ) + 1 / divisor ≤
        ((dividend / divisor : ℕ) : ℝ) + 1 := by
      rw [← add_div, div_le_iff₀ divisorReal, add_mul, one_mul, mul_comm]
      exact_mod_cast (by omega : dividend + 1 ≤ divisor * (dividend /
        divisor) + divisor)
    rw [Int.ceil_eq_iff, Int.cast_add, Int.cast_natCast, Int.cast_one]
    exact ⟨by linarith, by linarith⟩

/-! ## Whole parts -/

/--
A scaled integer that is not below zero is truncated to the largest integer not
above it.
-/
theorem Scaled.le_truncate_iff {number : Scaled}
    (notNegative : 0 ≤ number.numerator) {integer : ℤ} :
    integer ≤ number.truncate ↔ number.compareInt integer ≠ .lt := by
  have positive : (0 : ℤ) < number.divisor := by
    exact_mod_cast number.divisor_pos
  rw [Scaled.compareInt, ne_eq, compare_lt_iff_lt, not_lt, truncate,
    Int.tdiv_eq_ediv_of_nonneg notNegative, Int.le_ediv_iff_mul_le positive]

namespace Double

open Unpacked (RoundsTo)

/-- A double that is not below zero is truncated as its rank is. -/
theorem truncate?_eq {number : Float} {real : ℝ}
    (ranked : rank? number = some (real : EReal)) (notNegative : 0 ≤ real) :
    truncate? number = some ⌊real⌋ := by
  rcases isFinite_iff_scaled?.mp (isFinite_of_rank? ranked) with
    ⟨exact, isExact⟩
  have order (integer : ℤ) :
      exact.compareInt integer = compare (real : EReal) (integer : ℝ) :=
    compareInt_of_scaled? isExact ranked integer
  have numerator : 0 ≤ exact.numerator := by
    have zero := order 0
    rw [Scaled.compareInt, zero_mul] at zero
    by_contra below
    rw [compare_lt_iff_lt.mpr (not_le.mp below), eq_comm, compare_lt_iff_lt,
      EReal.coe_lt_coe_iff, Int.cast_zero] at zero
    exact absurd notNegative (not_le.mpr zero)
  have least (integer : ℤ) : integer ≤ exact.truncate ↔ integer ≤ ⌊real⌋ := by
    rw [Scaled.le_truncate_iff numerator, order, ne_eq, compare_lt_iff_lt,
      not_lt, EReal.coe_le_coe_iff, Int.le_floor]
  rw [truncate?, isExact, Option.map_some, Option.some.injEq]
  exact le_antisymm ((least _).mp (le_refl _)) ((least _).mpr (le_refl _))

/-! ## Natural numbers -/

/-- A natural number of few bits is rounded to itself. -/
theorem roundsTo_natCast {natural : ℕ} (small : natural < 2 ^ 53) :
    RoundsTo .binary64 ((natural : ℝ) : EReal) ((natural : ℝ) : EReal) := by
  rcases exists_rank?_ofInt natural with ⟨rounded, rounds, -⟩
  have bounded : |((natural : ℤ) : ℝ)| ≤ 2 ^ 53 := by
    rw [Int.cast_natCast, abs_of_nonneg (Nat.cast_nonneg _)]
    exact_mod_cast small.le
  rcases rounds.exists_real (by decide) bounded with ⟨real, rfl, -⟩
  rw [Int.cast_natCast] at rounds
  have same :=
    (rounds.isRounding (Nat.cast_nonneg _)).eq_natCast small (by decide)
  rwa [same] at rounds

/-- It is converted into a double of that rank. -/
theorem exists_ofInt?_natCast {natural : ℕ} (small : natural < 2 ^ 53) :
    ∃ nearest, ofInt? natural = some nearest ∧
      rank? nearest = some ((natural : ℝ) : EReal) := by
  have bounded : |((natural : ℤ) : ℝ)| ≤ 2 ^ 53 := by
    rw [Int.cast_natCast, abs_of_nonneg (Nat.cast_nonneg _)]
    exact_mod_cast small.le
  rcases exists_ofInt? (by decide) bounded with
    ⟨real, nearest, rounds, -, found, ranked⟩
  rw [Int.cast_natCast] at rounds
  have same :=
    (rounds.isRounding (Nat.cast_nonneg _)).eq_natCast small (by decide)
  rw [same] at ranked
  exact ⟨nearest, found, ranked⟩

/--
A quotient with a dividend of few bits has the whole part of the exact quotient.
-/
theorem exists_ofQuotient?_natCast {dividend divisor : ℕ}
    (small : dividend < 2 ^ 53) (positive : 0 < divisor) :
    ∃ quotient, ofQuotient? dividend divisor = some quotient ∧
      truncate? quotient = some ((dividend / divisor : ℕ) : ℤ) := by
  have divisorReal : (0 : ℝ) < divisor := by exact_mod_cast positive
  have atLeastOne : (1 : ℝ) ≤ divisor := by exact_mod_cast positive
  have smallReal : (dividend : ℝ) < 2 ^ 53 := by exact_mod_cast small
  have exactNotNegative : (0 : ℝ) ≤ (dividend : ℝ) / divisor := by positivity
  have bounded : |(((dividend : ℤ) : ℝ) / ((divisor : ℤ) : ℝ))| ≤ 2 ^ 53 := by
    rw [Int.cast_natCast, Int.cast_natCast, abs_of_nonneg exactNotNegative]
    exact (div_le_self (Nat.cast_nonneg _) atLeastOne).trans smallReal.le
  rcases exists_ofQuotient? dividend (by omega) (by decide) bounded with
    ⟨real, quotient, rounds, -, found, ranked⟩
  rw [Int.cast_natCast, Int.cast_natCast] at rounds
  have rounding := rounds.isRounding exactNotNegative
  refine ⟨quotient, found, ?_⟩
  rw [truncate?_eq ranked rounding.notNegative, Option.some.injEq,
    Int.floor_eq_iff, Int.cast_natCast]
  have notAbove : ((dividend / divisor : ℕ) : ℝ) ≤ (dividend : ℝ) / divisor :=
    Nat.cast_div_le
  constructor
  · have whole : dividend / divisor < 2 ^ 53 :=
      (Nat.div_le_self _ _).trans_lt small
    exact EReal.coe_le_coe_iff.mp
      ((roundsTo_natCast whole).mono rounds (EReal.coe_le_coe_iff.mpr notAbove))
  · have next : (dividend : ℝ) / divisor + 1 / divisor ≤
        (dividend / divisor : ℕ) + 1 := by
      rw [← add_div, div_le_iff₀ divisorReal, mul_comm]
      exact_mod_cast Nat.succ_le_of_lt (Nat.lt_mul_div_succ dividend positive)
    have moved := le_abs_self (real - (dividend : ℝ) / divisor)
    -- Below one half a quotient is far away from one, and above it the least
    -- unit does not count.
    rcases le_total ((dividend : ℝ) / divisor) (1 / 2) with low | high
    · have error : |real - (dividend : ℝ) / divisor| ≤ 1 / 4 := by
        refine rounding.abs_sub_le.trans (max_le ?_ ?_)
        · have bits : Format.binary64.mantissaBits = 53 := by decide
          rw [bits]
          linarith
        · have unit : (2 : ℝ) ^ Format.binary64.minExponent ≤ 2 ^ (-1 : ℤ) :=
            zpow_le_zpow_right₀ one_le_two (by decide)
          rw [zpow_neg_one] at unit
          linarith
      have whole : (0 : ℝ) ≤ (dividend / divisor : ℕ) := Nat.cast_nonneg _
      linarith
    · have half : (2 : ℝ) ^ (-1022 : ℤ) ≤ 2 ^ (-1 : ℤ) :=
        zpow_le_zpow_right₀ one_le_two (by omega)
      rw [zpow_neg_one, ← one_div] at half
      have error := rounding.abs_sub_le_of_normal (half.trans high)
      have short : (dividend : ℝ) / divisor / 2 ^ 53 < 1 / divisor := by
        rw [div_right_comm]
        exact div_lt_div_of_pos_right
          ((div_lt_one (by positivity)).mpr smallReal) divisorReal
      linarith

end Double

end SoundGrid.Number
