import SoundGrid.Proofs.Number.Rank

/-!
# Rounded mantissas

A mantissa is rounded in three steps.  It is shifted to the place of its
number, and a round bit and a sticky bit tell what was lost; it is rounded to
the nearest whole by these bits; and if this made it too long it is shifted by
one more bit, which is zero.  The result is a rounding of the number, and it is
canonical.
-/

namespace SoundGrid.Number.Unpacked

open Float.Model (Format UnpackedFloat totalExponent)
open Float.Model.UnpackedFloat
  (Accuracy ExtendedMantissa Sign accuracyOfFraction shiftToExponent
    shiftToTargetExponent roundWithAccuracy decreaseExponent)

/-! ## Extended mantissas -/

/--
A number whose whole part is the mantissa and whose first bit after it is the
round bit; the sticky bit tells whether anything is left.
-/
inductive Represents (extended : ExtendedMantissa) (number : ℝ) : Prop where
  | intro (rest : ℝ)
      (sum :
        number = extended.mantissa + (extended.roundBit.toNat : ℝ) / 2 + rest)
      (notNegative : 0 ≤ rest) (short : rest < 1 / 2)
      (sticky : extended.stickyBit = true ↔ 0 < rest)

theorem represents_exact (mantissa : ℕ) :
    Represents (.ofMantissaAndAccuracy mantissa .exact) mantissa := by
  refine ⟨0, ?_, le_refl 0, by positivity, ?_⟩
  · change (mantissa : ℝ) = mantissa + (0 : ℕ) / 2 + 0
    rw [Nat.cast_zero, zero_div, add_zero, add_zero]
  · exact iff_of_false Bool.false_ne_true (lt_irrefl 0)

/--
A quotient is represented by its whole part, and its remainder tells the two
bits.
-/
theorem represents_accuracyOfFraction (numerator : ℕ) {denominator : ℕ}
    (positive : 0 < denominator) :
    Represents (.ofMantissaAndAccuracy (numerator / denominator)
        (accuracyOfFraction (numerator % denominator) denominator))
      ((numerator : ℝ) / denominator) := by
  have divisor : (0 : ℝ) < denominator := by exact_mod_cast positive
  have short : numerator % denominator < denominator := Nat.mod_lt _ positive
  have split : (numerator : ℝ) / denominator =
      (numerator / denominator : ℕ) + ((numerator % denominator : ℕ) : ℝ) /
        denominator := by
    have whole : (numerator : ℝ) =
        denominator * (numerator / denominator : ℕ) +
          (numerator % denominator : ℕ) := by
      exact_mod_cast (Nat.div_add_mod numerator denominator).symm
    field_simp
    linarith
  generalize numerator / denominator = quotient at split
  generalize numerator % denominator = remainder at split short
  have shortReal : (remainder : ℝ) < denominator := by exact_mod_cast short
  rw [accuracyOfFraction]
  by_cases zero : remainder = 0
  · rw [if_pos zero, split, zero, Nat.cast_zero, zero_div, add_zero]
    exact represents_exact quotient
  · have positiveReal : (0 : ℝ) < remainder := by
      exact_mod_cast Nat.pos_of_ne_zero zero
    rw [if_neg zero]
    rcases Nat.lt_trichotomy (2 * remainder) denominator with less | half | more
    · have lessReal : 2 * (remainder : ℝ) < denominator := by
        exact_mod_cast less
      rw [Nat.compare_eq_lt.mpr less]
      refine ⟨remainder / denominator, ?_, by positivity, ?_,
        iff_of_true rfl (by positivity)⟩
      · rw [split]
        change _ = (quotient : ℝ) + (0 : ℕ) / 2 + _
        rw [Nat.cast_zero, zero_div, add_zero]
      · rw [div_lt_div_iff₀ divisor two_pos]
        linarith
    · have halfReal : 2 * (remainder : ℝ) = denominator := by
        exact_mod_cast half
      rw [Nat.compare_eq_eq.mpr half]
      refine ⟨0, ?_, le_refl 0, by positivity,
        iff_of_false Bool.false_ne_true (lt_irrefl 0)⟩
      rw [split, ← halfReal]
      change _ = (quotient : ℝ) + (1 : ℕ) / 2 + 0
      field_simp
      push_cast
      ring
    · have moreReal : (denominator : ℝ) < 2 * remainder := by
        exact_mod_cast more
      rw [Nat.compare_eq_gt.mpr more]
      refine ⟨remainder / denominator - 1 / 2, ?_, ?_, ?_, iff_of_true rfl ?_⟩
      · rw [split]
        change _ = (quotient : ℝ) + (1 : ℕ) / 2 + _
        push_cast
        ring
      · rw [sub_nonneg, div_le_div_iff₀ two_pos divisor]
        linarith
      · rw [sub_lt_iff_lt_add, div_lt_iff₀ divisor]
        linarith
      · rw [sub_pos, div_lt_div_iff₀ two_pos divisor]
        linarith

/-- The number lies between its mantissa and the next whole number. -/
theorem Represents.bounds {extended : ExtendedMantissa} {number : ℝ}
    (represents : Represents extended number) :
    extended.mantissa ≤ number ∧ number < extended.mantissa + 1 := by
  rcases represents with ⟨rest, rfl, notNegative, short, -⟩
  have bit : (extended.roundBit.toNat : ℝ) ≤ 1 := by
    exact_mod_cast Bool.toNat_le _
  have bitNotNegative : (0 : ℝ) ≤ extended.roundBit.toNat := Nat.cast_nonneg _
  constructor
  · linarith
  · linarith

theorem mantissa_ofMantissaAndAccuracy (mantissa : ℕ) (accuracy : Accuracy) :
    (ExtendedMantissa.ofMantissaAndAccuracy mantissa accuracy).mantissa =
      mantissa := by
  cases accuracy with
  | exact => rfl
  | inexact order => cases order <;> rfl

/--
Of the old bits the last becomes the round bit, and what was lost stays lost.
-/
theorem Represents.shiftRightOne {extended : ExtendedMantissa} {number : ℝ}
    (represents : Represents extended number) :
    Represents extended.shiftRightOne (number / 2) := by
  rcases extended with ⟨mantissa, roundBit, stickyBit⟩
  rcases represents with ⟨rest, rfl, notNegative, short, sticky⟩
  have lastBit : (mantissa % 2 != 0).toNat = mantissa % 2 := by
    rcases Nat.mod_two_eq_zero_or_one mantissa with even | odd
    · rw [even]
      rfl
    · rw [odd]
      rfl
  have halved :
      (mantissa : ℝ) = 2 * (mantissa / 2 : ℕ) + (mantissa % 2 : ℕ) := by
    exact_mod_cast (Nat.div_add_mod mantissa 2).symm
  refine ⟨((roundBit.toNat : ℝ) / 2 + rest) / 2, ?_, by positivity, ?_, ?_⟩
  · change ((mantissa : ℝ) + roundBit.toNat / 2 + rest) / 2 =
      (mantissa / 2 : ℕ) + ((mantissa % 2 != 0).toNat : ℝ) / 2 +
        ((roundBit.toNat : ℝ) / 2 + rest) / 2
    rw [lastBit]
    linarith
  · have bit : (roundBit.toNat : ℝ) ≤ 1 := by
      exact_mod_cast Bool.toNat_le roundBit
    linarith
  · change (roundBit || stickyBit) = true ↔ _
    cases roundBit with
    | true =>
        refine iff_of_true rfl ?_
        rw [Bool.toNat_true]
        positivity
    | false =>
        rw [Bool.false_or, Bool.toNat_false, Nat.cast_zero, zero_div, zero_add]
        exact sticky.trans (div_pos_iff_of_pos_right two_pos).symm

theorem Represents.shiftRight {extended : ExtendedMantissa} {number : ℝ}
    (represents : Represents extended number) (bits : ℕ) :
    Represents (extended >>> bits) (number * 2 ^ (-bits : ℤ)) := by
  induction bits with
  | zero =>
      rw [Nat.cast_zero, neg_zero, zpow_zero, mul_one]
      exact represents
  | succ bits ih =>
      have halves : number * 2 ^ (-(bits + 1 : ℕ) : ℤ) =
          number * 2 ^ (-bits : ℤ) / 2 := by
        rw [Nat.cast_succ, neg_add, zpow_add₀ two_ne_zero, zpow_neg_one]
        ring
      rw [halves]
      exact ih.shiftRightOne

/-- The two bits are enough to find the nearest whole number. -/
theorem Represents.isNearest {extended : ExtendedMantissa} {number : ℝ}
    (represents : Represents extended number) :
    IsNearest number extended.roundedMantissa := by
  rcases extended with ⟨mantissa, roundBit, stickyBit⟩
  rcases represents with ⟨rest, rfl, notNegative, short, sticky⟩
  cases roundBit with
  | false =>
      have rounded :
          (ExtendedMantissa.mk mantissa false stickyBit).roundedMantissa =
            mantissa := by
        cases stickyBit <;> rfl
      rw [rounded]
      change IsNearest (mantissa + (0 : ℕ) / 2 + rest) mantissa
      rw [Nat.cast_zero, zero_div, add_zero]
      exact
        { notBelow := by linarith
          notAbove := by linarith
          even := by rintro (tie | tie) <;> exfalso <;> linarith }
  | true =>
      change IsNearest (mantissa + (1 : ℕ) / 2 + rest) _
      rw [Nat.cast_one]
      cases stickyBit with
      | true =>
          have left : 0 < rest := sticky.mp rfl
          change IsNearest _ (mantissa + 1)
          refine ⟨?_, ?_, ?_⟩
          · push_cast
            linarith
          · push_cast
            linarith
          · push_cast
            rintro (tie | tie) <;> exfalso <;> linarith
      | false =>
          have nothing : ¬ 0 < rest := fun left =>
            Bool.false_ne_true (sticky.mpr left)
          have exact : rest = 0 := le_antisymm (not_lt.mp nothing) notNegative
          rw [exact]
          change IsNearest _ (mantissa + mantissa % 2)
          rcases Nat.mod_two_eq_zero_or_one mantissa with even | odd
          · rw [even]
            refine ⟨?_, ?_, fun _ => ?_⟩
            · push_cast
              linarith
            · push_cast
              linarith
            · exact Nat.dvd_of_mod_eq_zero even
          · rw [odd]
            refine ⟨?_, ?_, fun _ => ?_⟩
            · push_cast
              linarith
            · push_cast
              linarith
            · omega

/-! ## Shifts -/

/-- A shift to the right keeps the number, as a count of larger units. -/
theorem Represents.shiftToExponent {mantissa : ℕ}
    {accuracy : Accuracy} {number : ℝ}
    (represents : Represents (.ofMantissaAndAccuracy mantissa accuracy) number)
    {exponent target : ℤ} (shorter : exponent ≤ target) :
    Represents (shiftToExponent mantissa exponent accuracy target).1
        (number * 2 ^ exponent * 2 ^ (-target)) ∧
      (UnpackedFloat.shiftToExponent mantissa exponent accuracy target).2 =
        target := by
  have bits : ((target - exponent).toNat : ℤ) = target - exponent :=
    Int.toNat_of_nonneg (Int.sub_nonneg_of_le shorter)
  constructor
  · have shifted := represents.shiftRight (target - exponent).toNat
    rw [bits, neg_sub] at shifted
    rw [mul_assoc, ← zpow_add₀ two_ne_zero, ← sub_eq_add_neg]
    exact shifted
  · change exponent + ((target - exponent).toNat : ℤ) = target
    omega

/--
The exponent that a format aims at is the place of every number with this whole
part.  Where the whole part is zero the number has to be short enough for it.
-/
theorem isPlace_targetExponent (format : Format) {mantissa : ℕ} {number : ℝ}
    (exponent : ℤ) (least : mantissa ≤ number) (below : number < mantissa + 1)
    (aimed : 0 < mantissa ∨
      exponent ≤ format.targetExponent (totalExponent mantissa exponent)) :
    IsPlace format (number * 2 ^ exponent)
      (format.targetExponent (totalExponent mantissa exponent)) := by
  have longEnough : number < 2 ^ (mantissa.log2 + 1) := by
    have next : (mantissa : ℝ) + 1 ≤ 2 ^ (mantissa.log2 + 1) := by
      exact_mod_cast Nat.lt_log2_self
    exact below.trans_le next
  have positive : (0 : ℝ) < 2 ^ exponent := by positivity
  have implicitBit := format.hm
  rw [Format.targetExponent, totalExponent, Format.mantissaBits] at *
  refine ⟨le_max_right _ _, ?_, ?_⟩
  · calc
      number * 2 ^ exponent < 2 ^ (mantissa.log2 + 1) * 2 ^ exponent :=
        mul_lt_mul_of_pos_right longEnough positive
      _ = 2 ^ ((mantissa.log2 + 1 : ℕ) + exponent) := by
        rw [zpow_add₀ two_ne_zero, zpow_natCast]
      _ ≤ _ :=
        zpow_le_zpow_right₀ one_le_two (by rw [Format.mantissaBits]; omega)
  · intro beyond
    have nonzero : mantissa ≠ 0 := by
      rintro rfl
      rw [Nat.log2_zero] at aimed beyond
      omega
    have longest : (2 : ℝ) ^ mantissa.log2 ≤ number := by
      have whole : (2 : ℝ) ^ mantissa.log2 ≤ mantissa := by
        exact_mod_cast Nat.log2_self_le nonzero
      exact whole.trans least
    calc
      (2 : ℝ) ^ (_ : ℤ) = 2 ^ ((mantissa.log2 : ℤ) + exponent) := by
        congr 1
        rw [Format.mantissaBits]
        omega
      _ = 2 ^ mantissa.log2 * 2 ^ exponent := by
        rw [zpow_add₀ two_ne_zero, zpow_natCast]
      _ ≤ number * 2 ^ exponent :=
        mul_le_mul_of_nonneg_right longest positive.le

theorem shiftToTargetExponent_of_lt {format : Format} {whole : ℕ} {place : ℤ}
    (least : format.minExponent ≤ place)
    (short : whole < 2 ^ format.mantissaBits) :
    (shiftToTargetExponent format whole place .exact).1.mantissa = whole ∧
      (shiftToTargetExponent format whole place .exact).2 = place := by
  have bits : whole.log2 < format.mantissaBits := by
    by_cases zero : whole = 0
    · rw [zero, Format.mantissaBits]
      exact Nat.lt_of_lt_of_le Nat.one_pos (Nat.le_add_right _ _)
    · exact (Nat.log2_lt zero).mpr short
  have unshifted :
      (format.targetExponent (totalExponent whole place) - place).toNat =
        0 := by
    rw [Format.targetExponent, totalExponent]
    omega
  rw [shiftToTargetExponent, shiftToExponent, unshifted]
  exact ⟨rfl, add_zero place⟩

theorem shiftToTargetExponent_two_pow {format : Format} {place : ℤ}
    (least : format.minExponent ≤ place) :
    (shiftToTargetExponent format (2 ^ format.mantissaBits) place
      .exact).1.mantissa =
        2 ^ format.mantissaBitsWithoutImplicit ∧
      (shiftToTargetExponent format (2 ^ format.mantissaBits) place .exact).2 =
        place + 1 := by
  have shifted :
      (format.targetExponent (totalExponent (2 ^ format.mantissaBits) place) -
        place).toNat =
        1 := by
    rw [Format.targetExponent, totalExponent, Nat.log2_two_pow]
    omega
  have halved :
      2 ^ format.mantissaBits / 2 = 2 ^ format.mantissaBitsWithoutImplicit := by
    rw [two_pow_mantissaBits, Nat.mul_div_cancel_left _ two_pos]
  rw [shiftToTargetExponent, shiftToExponent, shifted]
  exact ⟨halved, rfl⟩

/--
A mantissa that rounding has made too long is shifted once more, and loses
nothing.
-/
theorem shiftToTargetExponent_of_le {format : Format} {whole : ℕ} {place : ℤ}
    (least : format.minExponent ≤ place) (few : whole ≤ 2 ^ format.mantissaBits)
    (many : format.minExponent < place →
      2 ^ format.mantissaBitsWithoutImplicit ≤ whole) :
    let shifted := shiftToTargetExponent format whole place .exact
    (shifted.1.mantissa * 2 ^ shifted.2 : ℝ) = whole * 2 ^ place ∧
      IsPlace format (shifted.1.mantissa * 2 ^ shifted.2) shifted.2 := by
  intro shifted
  have implicitBit := two_pow_mantissaBits format
  have positive : 0 < 2 ^ format.mantissaBitsWithoutImplicit :=
    Nat.two_pow_pos _
  rcases few.lt_or_eq with short | rfl
  · rcases shiftToTargetExponent_of_lt least short with ⟨mantissa, exponent⟩
    rw [mantissa, exponent]
    exact ⟨rfl, isPlace_units_iff.mpr ⟨least, short, many⟩⟩
  · rcases shiftToTargetExponent_two_pow least with ⟨mantissa, exponent⟩
    rw [mantissa, exponent]
    refine ⟨?_, isPlace_units_iff.mpr ⟨by omega, by omega, fun _ => le_refl _⟩⟩
    rw [implicitBit, zpow_add_one₀ two_ne_zero]
    push_cast
    ring

/-! ## Rounding -/

/-- A rounded number is canonical, and its rank is a rounding of the number. -/
theorem isRounding_roundWithAccuracy (format : Format) (sign : Sign)
    {mantissa : ℕ} {exponent : ℤ} {accuracy : Accuracy} {number : ℝ}
    (represents : Represents (.ofMantissaAndAccuracy mantissa accuracy) number)
    (shorter :
      exponent ≤ format.targetExponent (totalExponent mantissa exponent)) :
    ∃ rounded : ℝ, IsRounding format (number * 2 ^ exponent) rounded ∧
      IsCanonical format
        (roundWithAccuracy format sign mantissa exponent accuracy) ∧
      rank? (roundWithAccuracy format sign mantissa exponent accuracy) =
        some (signed sign rounded) := by
  have bounds := represents.bounds
  rw [mantissa_ofMantissaAndAccuracy] at bounds
  have isPlace :=
    isPlace_targetExponent format _ bounds.1 bounds.2 (Or.inr shorter)
  rcases represents.shiftToExponent shorter with ⟨represents, atPlace⟩
  generalize shifted : shiftToExponent mantissa exponent accuracy
    (format.targetExponent (totalExponent mantissa exponent)) =
      first at represents atPlace
  rw [← atPlace] at isPlace represents
  have nearest := represents.isNearest
  rcases shiftToTargetExponent_of_le isPlace.least (isPlace.whole_le nearest)
    (fun beyond => isPlace.le_whole beyond nearest) with ⟨exact, canonical⟩
  generalize final :
    shiftToTargetExponent format first.1.roundedMantissa first.2 .exact =
    last at exact canonical
  have unfolded : roundWithAccuracy format sign mantissa exponent accuracy =
      if zero : last.1.mantissa = 0 then .zero sign
      else .finite sign last.1.mantissa last.2 (Nat.pos_of_ne_zero zero) := by
    subst shifted final
    rfl
  refine ⟨_, ⟨first.2, first.1.roundedMantissa, isPlace, nearest, rfl⟩, ?_⟩
  rw [unfolded]
  by_cases zero : last.1.mantissa = 0
  · rw [dif_pos zero]
    rw [zero, Nat.cast_zero, zero_mul] at exact
    refine ⟨trivial, ?_⟩
    rw [← exact]
    cases sign
    · exact congrArg some neg_zero.symm
    · rfl
  · rw [dif_neg zero]
    exact ⟨canonical,
      congrArg (fun value : ℝ => some (signed sign value)) exact⟩

theorem decreaseExponent_eq (mantissa : ℕ) (exponent target : ℤ) :
    let decreased := decreaseExponent mantissa exponent target
    (decreased.1 * 2 ^ decreased.2 : ℝ) = mantissa * 2 ^ exponent ∧
      decreased.2 ≤ target := by
  constructor
  · change ((mantissa <<< (exponent - target).toNat : ℕ) : ℝ) *
      2 ^ (exponent - ((exponent - target).toNat : ℤ)) = _
    rw [Nat.shiftLeft_eq, Nat.cast_mul, Nat.cast_pow, Nat.cast_two,
      ← zpow_natCast, mul_assoc, ← zpow_add₀ two_ne_zero, add_sub_cancel]
  · change exponent - ((exponent - target).toNat : ℤ) ≤ target
    omega

/-- Rounding in a format, for mantissas that are too long or too short. -/
theorem isRounding_round (format : Format) (sign : Sign) {mantissa : ℕ}
    (exponent : ℤ) (nonzero : 0 < mantissa) :
    ∃ rounded : ℝ, IsRounding format (mantissa * 2 ^ exponent) rounded ∧
      IsCanonical format (.round format sign mantissa exponent) ∧
      rank? (.round format sign mantissa exponent) =
        some (signed sign rounded) := by
  have isPlace := isPlace_targetExponent format exponent (le_refl _)
    (lt_add_one (mantissa : ℝ)) (Or.inl nonzero)
  rcases decreaseExponent_eq mantissa exponent
    (format.targetExponent (totalExponent mantissa exponent)) with
    ⟨same, shorter⟩
  have unfolded : UnpackedFloat.round format sign mantissa exponent =
      let decreased := decreaseExponent mantissa exponent
        (format.targetExponent (totalExponent mantissa exponent))
      roundWithAccuracy format sign decreased.1 decreased.2 .exact := rfl
  generalize decreaseExponent mantissa exponent
    (format.targetExponent (totalExponent mantissa exponent)) =
      decreased at same shorter unfolded
  have decreasedNonzero : 0 < decreased.1 := by
    apply Nat.pos_of_ne_zero
    intro zero
    rw [zero, Nat.cast_zero, zero_mul] at same
    have positive : (0 : ℝ) < mantissa * 2 ^ exponent := by positivity
    exact positive.ne same
  have decreasedPlace := isPlace_targetExponent format decreased.2 (le_refl _)
    (lt_add_one (decreased.1 : ℝ)) (Or.inl decreasedNonzero)
  rw [same] at decreasedPlace
  have aimed := isPlace.mono decreasedPlace (le_refl _)
  rw [unfolded, ← same]
  exact isRounding_roundWithAccuracy format sign (represents_exact decreased.1)
    (shorter.trans aimed)

end SoundGrid.Number.Unpacked
