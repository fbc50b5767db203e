import Mathlib

/-!
# Places and rounding

A binary format writes a number that is not negative as a whole number of
units, and the unit is a power of two: as small as the bits of the mantissa
allow, but never below the least one of the format.  Its exponent is the place
of the number.

Rounding takes the nearest whole number of units, and the even one of two.  It
never changes the order of two numbers, also when they have different places:
the smaller number is then rounded to at most the largest mantissa and one, and
this is where the numbers of the next place begin.
-/

namespace SoundGrid.Number

open Float.Model (Format)

/-! ## Places -/

/-- So many units of a place. -/
noncomputable abbrev units (count : ℝ) (place : ℤ) : ℝ :=
  count * 2 ^ place

/-- The place of a number that is not negative. -/
structure IsPlace (format : Format) (number : ℝ) (place : ℤ) : Prop where
  least : format.minExponent ≤ place
  below : number < 2 ^ (format.mantissaBits + place)
  full :
    format.minExponent < place → 2 ^ (format.mantissaBits + place - 1) ≤ number

/-- One bit of a full mantissa is not written. -/
theorem two_pow_mantissaBits (format : Format) :
    2 ^ format.mantissaBits = 2 * 2 ^ format.mantissaBitsWithoutImplicit := by
  rw [Format.mantissaBits, Nat.add_comm, Nat.pow_succ, Nat.mul_comm]

variable {format : Format}

theorem IsPlace.mono {lower upper : ℝ} {first second : ℤ}
    (lowerPlace : IsPlace format lower first)
    (upperPlace : IsPlace format upper second)
    (ordered : lower ≤ upper) : first ≤ second := by
  by_contra beyond
  have later : second < first := not_le.mp beyond
  have full := lowerPlace.full (lt_of_le_of_lt upperPlace.least later)
  have powers : (2 : ℝ) ^ (format.mantissaBits + first - 1) <
      2 ^ (format.mantissaBits + second) :=
    lt_of_le_of_lt (full.trans ordered) upperPlace.below
  have exponents := (zpow_lt_zpow_iff_right₀ one_lt_two).mp powers
  omega

/-! ## The nearest whole number -/

/-- The whole number next to a number, the even one of two. -/
structure IsNearest (number : ℝ) (whole : ℕ) : Prop where
  notBelow : number ≤ whole + 1 / 2
  notAbove : whole - 1 / 2 ≤ number
  even : number = whole + 1 / 2 ∨ number = whole - 1 / 2 → 2 ∣ whole

theorem isNearest_natCast (whole : ℕ) : IsNearest whole whole where
  notBelow := by linarith
  notAbove := by linarith
  even tie := by rcases tie with up | down <;> exfalso <;> linarith

theorem IsNearest.mono {lower upper : ℝ} {first second : ℕ}
    (lowerNearest : IsNearest lower first)
    (upperNearest : IsNearest upper second)
    (ordered : lower ≤ upper) : first ≤ second := by
  by_contra beyond
  have later : second + 1 ≤ first := not_le.mp beyond
  have laterReal : (second : ℝ) + 1 ≤ first := by exact_mod_cast later
  have notAbove := lowerNearest.notAbove
  have notBelow := upperNearest.notBelow
  -- Both numbers lie half way between two neighbours, and only one of these is
  -- even.
  have neighbours : (first : ℝ) = second + 1 := by linarith
  have successor : first = second + 1 := by exact_mod_cast neighbours
  have firstEven : 2 ∣ first := lowerNearest.even (Or.inr (by linarith))
  have secondEven : 2 ∣ second := upperNearest.even (Or.inl (by linarith))
  omega

/-! ## Rounding -/

/-- A number that is not negative and what a format rounds it to. -/
def IsRounding (format : Format) (number rounded : ℝ) : Prop :=
  ∃ (place : ℤ) (whole : ℕ), IsPlace format number place ∧
    IsNearest (number * 2 ^ (-place)) whole ∧ rounded = whole * 2 ^ place

theorem IsPlace.whole_le {number : ℝ} {place : ℤ} {whole : ℕ}
    (isPlace : IsPlace format number place)
    (nearest : IsNearest (number * 2 ^ (-place)) whole) :
    whole ≤ 2 ^ format.mantissaBits := by
  have positive : (0 : ℝ) < 2 ^ (-place) := by positivity
  have few : number * 2 ^ (-place) ≤ ((2 ^ format.mantissaBits : ℕ) : ℝ) :=
    calc
      number * 2 ^ (-place) ≤
        2 ^ (format.mantissaBits + place) * 2 ^ (-place) :=
        mul_le_mul_of_nonneg_right isPlace.below.le positive.le
      _ = 2 ^ (format.mantissaBits : ℤ) := by
        rw [← zpow_add₀ two_ne_zero, add_neg_cancel_right]
      _ = ((2 ^ format.mantissaBits : ℕ) : ℝ) := by
        rw [zpow_natCast, Nat.cast_pow, Nat.cast_two]
  exact nearest.mono (isNearest_natCast _) few

theorem IsPlace.le_whole {number : ℝ} {place : ℤ} {whole : ℕ}
    (isPlace : IsPlace format number place)
    (beyond : format.minExponent < place)
    (nearest : IsNearest (number * 2 ^ (-place)) whole) :
    2 ^ format.mantissaBitsWithoutImplicit ≤ whole := by
  have positive : (0 : ℝ) < 2 ^ (-place) := by positivity
  have bits : (format.mantissaBits : ℤ) + place - 1 + -place =
      (format.mantissaBitsWithoutImplicit : ℤ) := by
    rw [Format.mantissaBits]
    omega
  have many : ((2 ^ format.mantissaBitsWithoutImplicit : ℕ) : ℝ) ≤
      number * 2 ^ (-place) :=
    calc
      ((2 ^ format.mantissaBitsWithoutImplicit : ℕ) : ℝ) =
          2 ^ (format.mantissaBitsWithoutImplicit : ℤ) := by
        rw [zpow_natCast, Nat.cast_pow, Nat.cast_two]
      _ = 2 ^ (format.mantissaBits + place - 1) * 2 ^ (-place) := by
        rw [← zpow_add₀ two_ne_zero, bits]
      _ ≤ number * 2 ^ (-place) :=
        mul_le_mul_of_nonneg_right (isPlace.full beyond) positive.le
  exact (isNearest_natCast _).mono nearest many

/-- Rounding keeps the order of numbers. -/
theorem IsRounding.mono {lower upper lowerRounded upperRounded : ℝ}
    (lowerRounding : IsRounding format lower lowerRounded)
    (upperRounding : IsRounding format upper upperRounded)
    (ordered : lower ≤ upper) : lowerRounded ≤ upperRounded := by
  rcases lowerRounding with ⟨first, lowerWhole, lowerPlace, lowerNearest, rfl⟩
  rcases upperRounding with ⟨second, upperWhole, upperPlace, upperNearest, rfl⟩
  rcases (lowerPlace.mono upperPlace ordered).eq_or_lt with rfl | later
  · have positive : (0 : ℝ) < 2 ^ (-first) := by positivity
    have wholes := lowerNearest.mono upperNearest
      (mul_le_mul_of_nonneg_right ordered positive.le)
    have wholesReal : (lowerWhole : ℝ) ≤ upperWhole := by exact_mod_cast wholes
    exact mul_le_mul_of_nonneg_right wholesReal (by positivity)
  · have few : (lowerWhole : ℝ) ≤ 2 ^ format.mantissaBits := by
      exact_mod_cast lowerPlace.whole_le lowerNearest
    have many : (2 : ℝ) ^ format.mantissaBitsWithoutImplicit ≤ upperWhole := by
      exact_mod_cast upperPlace.le_whole
        (lowerPlace.least.trans_lt later) upperNearest
    have exponents : (format.mantissaBits : ℤ) + first ≤
        format.mantissaBitsWithoutImplicit + second := by
      rw [Format.mantissaBits]
      omega
    calc
      (lowerWhole : ℝ) * 2 ^ first ≤ 2 ^ format.mantissaBits * 2 ^ first :=
        mul_le_mul_of_nonneg_right few (by positivity)
      _ = 2 ^ ((format.mantissaBits : ℤ) + first) := by
        rw [zpow_add₀ two_ne_zero, zpow_natCast]
      _ ≤ 2 ^ ((format.mantissaBitsWithoutImplicit : ℤ) + second) :=
        zpow_le_zpow_right₀ one_le_two exponents
      _ = 2 ^ format.mantissaBitsWithoutImplicit * 2 ^ second := by
        rw [zpow_add₀ two_ne_zero, zpow_natCast]
      _ ≤ (upperWhole : ℝ) * 2 ^ second :=
        mul_le_mul_of_nonneg_right many (by positivity)

end SoundGrid.Number
