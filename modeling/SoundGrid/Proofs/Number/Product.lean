import SoundGrid.Proofs.Number.Widening

/-!
# Products and quotients

A product or a quotient of finite doubles has the rank that the exact one is
rounded to, cut off.  For a product the mantissas are multiplied, and the result
has bits enough because one of them is full, or the exponents are small.  For a
quotient the first mantissa is made so long that the whole part of the division
has bits enough; the remainder tells what is lost.

What is at most a power of two is rounded to at most that power, so bounds on
exact results are bounds on what is computed.
-/

namespace SoundGrid.Number

open Float.Model (Format UnpackedFloat totalExponent)
open Float.Model.UnpackedFloat (Sign divCore roundWithAccuracy)

namespace Unpacked

variable {format : Format}

/-! ## Signs -/

theorem withSign_mul (first second : Sign) (left right : ℝ) :
    withSign first left * withSign second right =
      withSign (first * second) (left * right) := by
  cases first <;> cases second
  · exact neg_mul_neg left right
  · exact neg_mul left right
  · exact mul_neg left right
  · rfl

theorem withSign_div (first second : Sign) (left right : ℝ) :
    withSign first left / withSign second right =
      withSign (first / second) (left / right) := by
  cases first <;> cases second
  · exact neg_div_neg_eq left right
  · exact neg_div right left
  · exact div_neg left
  · rfl

theorem abs_withSign (sign : Sign) (real : ℝ) :
    |withSign sign real| = |real| := by
  cases sign
  · exact abs_neg real
  · rfl

/--
What a magnitude is rounded to is, with a sign, what the number is rounded to.
-/
theorem roundsTo_withSign {number rounded : ℝ} (notNegative : 0 ≤ number)
    (rounding : IsRounding format number rounded) (sign : Sign) :
    RoundsTo format (withSign sign number : ℝ) (signed sign rounded) :=
  ⟨sign, number, rounded, .finite notNegative rounding,
    (signed_coe sign number).symm, rfl⟩

/-- A number whose rank is real is a zero or has a mantissa. -/
theorem real_cases {number : UnpackedFloat} {real : ℝ}
    (ranked : rank? number = some (real : EReal)) :
    (∃ sign, number = .zero sign ∧ real = 0) ∨
      ∃ sign mantissa exponent nonzero,
        number = .finite sign mantissa exponent nonzero ∧
        real = withSign sign (units mantissa exponent) := by
  cases number with
  | notANumber => cases ranked
  | infinity sign =>
      cases sign
      · exact absurd (Option.some.inj ranked).symm (EReal.coe_ne_bot real)
      · exact absurd (Option.some.inj ranked).symm (EReal.coe_ne_top real)
  | zero sign => exact Or.inl ⟨sign, rfl,
    EReal.coe_eq_coe_iff.mp (Option.some.inj ranked).symm⟩
  | finite sign mantissa exponent nonzero =>
      have same := Option.some.inj ranked
      rw [signed_coe] at same
      exact Or.inr ⟨sign, mantissa, exponent, nonzero, rfl,
        (EReal.coe_eq_coe_iff.mp same).symm⟩

/-! ## Products -/

/-- Zero is rounded to zero. -/
theorem roundsTo_zero (format : Format) : RoundsTo format ((0 : ℝ) : EReal) 0 :=
  ⟨.positive, 0, 0, roundsMagnitude_zero format, rfl, rfl⟩

/--
One of two mantissas is full, or both exponents are the least one, which is
below zero.
-/
theorem product_shorter {first second : ℕ} {left right : ℤ}
    (firstNonzero : 0 < first) (secondNonzero : 0 < second)
    (firstPlace : IsPlace format (units first left) left)
    (secondPlace : IsPlace format (units second right) right) :
    left + right ≤ format.targetExponent
      (totalExponent (first * second) (left + right)) := by
  rcases isPlace_units_iff.mp firstPlace with ⟨-, -, firstFull⟩
  rcases isPlace_units_iff.mp secondPlace with ⟨-, -, secondFull⟩
  have firstLess : first ≤ first * second :=
    Nat.le_mul_of_pos_right first secondNonzero
  have secondLess : second ≤ first * second :=
    Nat.le_mul_of_pos_left second firstNonzero
  have nonzero : first * second ≠ 0 := by omega
  have leastNegative : format.minExponent ≤ 0 := by
    rw [minExponent_eq]
    have bits := format.hm
    omega
  rw [Format.targetExponent, totalExponent, Format.mantissaBits]
  by_cases small : left + right ≤ format.minExponent
  · omega
  · have full : 2 ^ format.mantissaBitsWithoutImplicit ≤ first * second := by
      by_cases large : format.minExponent < left
      · exact (firstFull large).trans firstLess
      · exact (secondFull (by omega)).trans secondLess
    have bits := (Nat.le_log2 nonzero).mpr full
    omega

/-- A product is what the exact product is rounded to. -/
theorem exists_rank?_mul {first second : UnpackedFloat} {x y : ℝ}
    (firstCanonical : IsCanonical format first)
    (secondCanonical : IsCanonical format second)
    (firstRanked : rank? first = some (x : EReal))
    (secondRanked : rank? second = some (y : EReal)) :
    ∃ rounded, RoundsTo format ((x * y : ℝ) : EReal) rounded ∧
      IsCanonical format (.mul format first second) ∧
      rank? (.mul format first second) = some rounded := by
  rcases real_cases firstRanked with
    ⟨sign, rfl, rfl⟩ | ⟨sign, mantissa, exponent, nonzero, rfl, rfl⟩
  · rw [zero_mul]
    rcases real_cases secondRanked with
      ⟨other, rfl, rfl⟩ | ⟨other, _, _, _, rfl, rfl⟩
    · exact ⟨0, roundsTo_zero format, trivial, rfl⟩
    · exact ⟨0, roundsTo_zero format, trivial, rfl⟩
  · rcases real_cases secondRanked with
      ⟨other, rfl, rfl⟩ | ⟨other, factor, otherExponent, otherNonzero, rfl, rfl⟩
    · rw [mul_zero]
      exact ⟨0, roundsTo_zero format, trivial, rfl⟩
    · have magnitude : units mantissa exponent * units factor otherExponent =
          ((mantissa * factor : ℕ) : ℝ) * 2 ^ (exponent + otherExponent) := by
        rw [units, units, zpow_add₀ two_ne_zero]
        push_cast
        ring
      rcases isRounding_roundWithAccuracy format (sign * other)
          (represents_exact _) (product_shorter nonzero otherNonzero
            firstCanonical secondCanonical) with
        ⟨rounded, rounding, canonical, ranked⟩
      rw [← magnitude] at rounding
      rw [withSign_mul]
      exact ⟨_, roundsTo_withSign (by positivity) rounding _, canonical, ranked⟩

/-! ## Quotients -/

/-- A quotient has as many places as its dividend is longer than the divisor. -/
theorem two_pow_le_shiftLeft_div {dividend divisor places bits : ℕ}
    (dividendNonzero : 0 < dividend) (divisorNonzero : 0 < divisor)
    (longer : places + (divisor.log2 + 1) ≤ dividend.log2 + bits) :
    2 ^ places ≤ dividend <<< bits / divisor := by
  rw [Nat.le_div_iff_mul_le divisorNonzero, Nat.shiftLeft_eq]
  calc
    2 ^ places * divisor ≤ 2 ^ places * 2 ^ (divisor.log2 + 1) :=
      Nat.mul_le_mul_left _ Nat.lt_log2_self.le
    _ ≤ 2 ^ (dividend.log2 + bits) := by
      rw [← Nat.pow_add]
      exact Nat.pow_le_pow_right two_pos longer
    _ ≤ dividend * 2 ^ bits := by
      rw [Nat.pow_add]
      exact Nat.mul_le_mul_right _
        (Nat.log2_self_le (Nat.ne_of_gt dividendNonzero))

/-- The whole part of a division has bits enough, and the remainder is kept. -/
theorem isRounding_divCore (format : Format) (sign : Sign)
    {dividend divisor : ℕ} (dividendNonzero : 0 < dividend)
    (divisorNonzero : 0 < divisor) (left right : ℤ) :
    let (mantissa, exponent, accuracy) :=
      divCore format dividend left divisor right
    ∃ rounded : ℝ,
      IsRounding format (units dividend left / units divisor right) rounded ∧
      IsCanonical format
        (roundWithAccuracy format sign mantissa exponent accuracy) ∧
      rank? (roundWithAccuracy format sign mantissa exponent accuracy) =
        some (signed sign rounded) := by
  rw [divCore]
  dsimp only
  generalize aimed : min (left - right)
    (format.targetExponent
      (totalExponent dividend left - totalExponent divisor right)) = target
  have shift : ((left - right - target).toNat : ℤ) = left - right - target :=
    Int.toNat_of_nonneg (by omega)
  generalize (left - right - target).toNat = bits at shift
  have magnitude : units dividend left / units divisor right =
      ((dividend <<< bits : ℕ) : ℝ) / divisor * 2 ^ target := by
    have exponents : left = bits + target + right := by omega
    have positive : (0 : ℝ) < divisor := by exact_mod_cast divisorNonzero
    rw [units, units, exponents, Nat.shiftLeft_eq, zpow_add₀ two_ne_zero,
      zpow_add₀ two_ne_zero, zpow_natCast]
    push_cast
    field_simp
  have shorter : target ≤ format.targetExponent
      (totalExponent (dividend <<< bits / divisor) target) := by
    rw [Format.targetExponent, totalExponent, totalExponent,
      Format.mantissaBits] at aimed
    rw [Format.targetExponent, totalExponent, Format.mantissaBits]
    by_cases small : target ≤ format.minExponent
    · omega
    · have long : 2 ^ format.mantissaBitsWithoutImplicit ≤
          dividend <<< bits / divisor :=
        two_pow_le_shiftLeft_div dividendNonzero divisorNonzero (by omega)
      have positive : 0 < 2 ^ format.mantissaBitsWithoutImplicit :=
        Nat.two_pow_pos _
      have enough := (Nat.le_log2 (by omega)).mpr long
      omega
  rw [magnitude]
  exact isRounding_roundWithAccuracy format sign
    (represents_accuracyOfFraction (dividend <<< bits) divisorNonzero) shorter

/-- A quotient is what the exact quotient is rounded to. -/
theorem exists_rank?_div {first second : UnpackedFloat} {x y : ℝ}
    (firstRanked : rank? first = some (x : EReal))
    (secondRanked : rank? second = some (y : EReal)) (nonzero : y ≠ 0) :
    ∃ rounded, RoundsTo format ((x / y : ℝ) : EReal) rounded ∧
      IsCanonical format (.div format first second) ∧
      rank? (.div format first second) = some rounded := by
  rcases real_cases secondRanked with
    ⟨other, rfl, rfl⟩ |
    ⟨other, divisor, otherExponent, divisorNonzero, rfl, rfl⟩
  · exact absurd rfl nonzero
  · rcases real_cases firstRanked with
      ⟨sign, rfl, rfl⟩ | ⟨sign, dividend, exponent, dividendNonzero, rfl, rfl⟩
    · rw [zero_div]
      exact ⟨0, roundsTo_zero format, trivial, rfl⟩
    · rcases isRounding_divCore format (sign / other)
        dividendNonzero divisorNonzero exponent
        otherExponent with ⟨rounded, rounding, canonical, ranked⟩
      rw [withSign_div]
      exact ⟨_, roundsTo_withSign (by positivity) rounding _, canonical, ranked⟩

/-! ## Bounds -/

/-- Powers of two within the range are numbers of the format. -/
theorem isRank_two_pow (sign : Sign) {exponent : ℕ}
    (small : exponent < Double.integerBits) :
    IsRank .binary64 (withSign sign (2 ^ exponent) : EReal) := by
  have full :
      (2 : ℝ) ^ exponent = units ((2 ^ 52 : ℕ) : ℝ) (exponent - 52) := by
    rw [units, Nat.cast_pow, Nat.cast_two, ← zpow_natCast, ← zpow_natCast,
      ← zpow_add₀ two_ne_zero]
    congr 1
    omega
  have bits : Format.binary64.mantissaBits = 53 := by decide
  have implicitBits :
      Format.binary64.mantissaBitsWithoutImplicit = 52 := by decide
  have least : Format.binary64.minExponent = -1074 := by decide
  have limited : limit .binary64 = 972 := by decide
  have most : Double.integerBits = 1024 := rfl
  rw [full, ← signed_coe]
  refine .finite sign (by decide)
    (isPlace_units_iff.mpr ⟨by omega, ?_, fun _ => ?_⟩) (by omega)
  · rw [bits]
    decide
  · rw [implicitBits]

/-- The numbers of the format end there. -/
theorem bound_binary64 :
    bound .binary64 = ((2 ^ Double.integerBits : ℝ) : EReal) := by
  have place :
      (Format.binary64.mantissaBitsWithoutImplicit : ℤ) + limit .binary64 =
      (Double.integerBits : ℕ) := by
    decide
  rw [bound, place, units, one_mul, zpow_natCast]

/--
What is at most a power of two in size is rounded to what is, and nothing is cut
off.
-/
theorem RoundsTo.exists_real {real : ℝ} {rounded : EReal}
    (rounds : RoundsTo .binary64 (real : EReal) rounded) {exponent : ℕ}
    (small : exponent < Double.integerBits) (bounded : |real| ≤ 2 ^ exponent) :
    ∃ result : ℝ, rounded = (result : EReal) ∧ |result| ≤ 2 ^ exponent ∧
      clip .binary64 rounded = rounded := by
  rcases abs_le.mp bounded with ⟨atLeast, atMost⟩
  have upper : rounded ≤ ((2 ^ exponent : ℝ) : EReal) :=
    rounds.mono (isRank_two_pow .positive small).roundsTo
      (EReal.coe_le_coe_iff.mpr atMost)
  have lower : ((-2 ^ exponent : ℝ) : EReal) ≤ rounded :=
    (isRank_two_pow .negative small).roundsTo.mono rounds
      (EReal.coe_le_coe_iff.mpr atLeast)
  have beyond : (2 : ℝ) ^ exponent < 2 ^ Double.integerBits :=
    pow_lt_pow_right₀ one_lt_two small
  induction rounded with
  | bot => exact absurd lower (not_le.mpr (EReal.bot_lt_coe _))
  | top => exact absurd upper (not_le.mpr (EReal.coe_lt_top _))
  | coe result =>
      have result_le := EReal.coe_le_coe_iff.mp upper
      have le_result := EReal.coe_le_coe_iff.mp lower
      refine ⟨result, rfl, abs_le.mpr ⟨le_result, result_le⟩, ?_⟩
      rw [clip, bound_binary64, ← EReal.coe_neg, if_neg, if_neg]
      · rw [EReal.coe_le_coe_iff]
        linarith
      · rw [EReal.coe_le_coe_iff]
        linarith

/-- What is at least a power of two is rounded to what is. -/
theorem RoundsTo.two_pow_le {real : ℝ} {rounded : EReal}
    (rounds : RoundsTo .binary64 (real : EReal) rounded) {exponent : ℕ}
    (small : exponent < Double.integerBits) (atLeast : 2 ^ exponent ≤ real) :
    ((2 ^ exponent : ℝ) : EReal) ≤ rounded :=
  (isRank_two_pow .positive small).roundsTo.mono rounds
    (EReal.coe_le_coe_iff.mpr atLeast)

/-- What is far below the least unit is rounded to zero. -/
theorem isRounding_zero_of_small {number : ℝ} (notNegative : 0 ≤ number)
    (small : number < 2 ^ (format.minExponent - 1)) :
    IsRounding format number 0 := by
  have positive : (0 : ℝ) < 2 ^ (-format.minExponent) := by positivity
  refine ⟨format.minExponent, 0,
    ⟨le_refl _, ?_, fun beyond => absurd beyond (lt_irrefl _)⟩,
    ?_, by rw [Nat.cast_zero, zero_mul]⟩
  · exact small.trans_le (zpow_le_zpow_right₀ one_le_two (by omega))
  · have half : number * 2 ^ (-format.minExponent) < 1 / 2 :=
      calc
        number * 2 ^ (-format.minExponent) <
            2 ^ (format.minExponent - 1) * 2 ^ (-format.minExponent) :=
          mul_lt_mul_of_pos_right small positive
        _ = 2 ^ (-1 : ℤ) := by
          rw [← zpow_add₀ two_ne_zero]
          congr 1
          omega
        _ = 1 / 2 := by norm_num
    have product : 0 ≤ number * 2 ^ (-format.minExponent) := by positivity
    refine ⟨?_, ?_, ?_⟩
    · rw [Nat.cast_zero]
      linarith
    · rw [Nat.cast_zero]
      linarith
    · rintro (tie | tie) <;> exact dvd_zero 2

end Unpacked

/-! ## Doubles -/

namespace Double

open Unpacked (RoundsTo clip)

/-- The rank of a double that is made of a canonical number. -/
theorem rank?_ofModel_pack (number : UnpackedFloat)
    (canonical : Unpacked.IsCanonical .binary64 number) :
    rank? (.ofModel (.pack number)) =
      (Unpacked.rank? number).map (clip .binary64) :=
  Unpacked.rank?_unpack_pack (by decide) canonical

variable {first second : Float} {x y : ℝ}

theorem exists_rank?_mul (firstRanked : rank? first = some (x : EReal))
    (secondRanked : rank? second = some (y : EReal)) :
    ∃ rounded, RoundsTo .binary64 ((x * y : ℝ) : EReal) rounded ∧
      rank? (first * second) = some (clip .binary64 rounded) := by
  rcases Unpacked.exists_rank?_mul (Unpacked.isCanonical_unpack _ _)
    (Unpacked.isCanonical_unpack _ _) firstRanked secondRanked with
    ⟨rounded, rounds, canonical, ranked⟩
  refine ⟨rounded, rounds, (rank?_ofModel_pack _ canonical).trans ?_⟩
  exact congrArg (Option.map (clip .binary64)) ranked

theorem exists_rank?_div (firstRanked : rank? first = some (x : EReal))
    (secondRanked : rank? second = some (y : EReal)) (nonzero : y ≠ 0) :
    ∃ rounded, RoundsTo .binary64 ((x / y : ℝ) : EReal) rounded ∧
      rank? (first / second) = some (clip .binary64 rounded) := by
  rcases Unpacked.exists_rank?_div firstRanked secondRanked nonzero with
    ⟨rounded, rounds, canonical, ranked⟩
  refine ⟨rounded, rounds, (rank?_ofModel_pack _ canonical).trans ?_⟩
  exact congrArg (Option.map (clip .binary64)) ranked

/-- An integer becomes what it is rounded to, cut off. -/
theorem exists_rank?_ofInt (integer : ℤ) :
    ∃ rounded, RoundsTo .binary64 ((integer : ℝ) : EReal) rounded ∧
      rank? (ofInt integer) = some (clip .binary64 rounded) := by
  by_cases zero : integer = 0
  · rw [zero, Int.cast_zero]
    exact ⟨0, Unpacked.roundsTo_zero _,
      rank?_ofModel_pack (.zero .positive) trivial⟩
  · rcases ofInt_eq_round zero with ⟨sign, same, made⟩
    rcases Unpacked.isRounding_round .binary64 sign 0
        (Int.natAbs_pos.mpr zero) with
      ⟨rounded, rounding, canonical, ranked⟩
    rw [zpow_zero, mul_one] at rounding
    have rounds := Unpacked.roundsTo_withSign (Nat.cast_nonneg _) rounding sign
    rw [same] at rounds
    refine ⟨_, rounds, ?_⟩
    rw [made, rank?_ofModel_pack _ canonical, ranked]
    rfl

/-- The sign of a quotient is that of the exact quotient. -/
theorem withSign_quotientSign (numerator : ℤ) {denominator : ℤ}
    (nonzero : denominator ≠ 0) :
    Unpacked.withSign (quotientSign numerator denominator)
      ((numerator.natAbs : ℝ) / denominator.natAbs) =
        (numerator / denominator : ℝ) := by
  rw [quotientSign, Nat.cast_natAbs, Nat.cast_natAbs, Int.cast_abs,
    Int.cast_abs, ← abs_div]
  rcases lt_or_gt_of_ne nonzero with below | above
  · have divisor : (denominator : ℝ) ≤ 0 := by exact_mod_cast below.le
    rcases lt_or_ge numerator 0 with negative | notNegative
    · have dividend : (numerator : ℝ) ≤ 0 := by exact_mod_cast negative.le
      rw [if_pos (by simp [below, negative])]
      exact abs_of_nonneg (div_nonneg_of_nonpos dividend divisor)
    · have dividend : (0 : ℝ) ≤ numerator := by exact_mod_cast notNegative
      rw [if_neg (by simp [below, not_lt.mpr notNegative]), Unpacked.withSign,
        abs_of_nonpos (div_nonpos_of_nonneg_of_nonpos dividend divisor),
        neg_neg]
  · have divisor : (0 : ℝ) ≤ denominator := by exact_mod_cast above.le
    rcases lt_or_ge numerator 0 with negative | notNegative
    · have dividend : (numerator : ℝ) ≤ 0 := by exact_mod_cast negative.le
      rw [if_neg (by simp [not_lt.mpr above.le, negative]), Unpacked.withSign,
        abs_of_nonpos (div_nonpos_of_nonpos_of_nonneg dividend divisor),
        neg_neg]
    · have dividend : (0 : ℝ) ≤ numerator := by exact_mod_cast notNegative
      rw [if_pos (by simp [not_lt.mpr above.le, not_lt.mpr notNegative])]
      exact abs_of_nonneg (div_nonneg dividend divisor)

/-- A quotient lies between the powers of two that its mantissas tell. -/
theorem quotient_bounds {dividend divisor : ℕ} (dividendNonzero : dividend ≠ 0)
    (divisorNonzero : divisor ≠ 0) :
    (2 : ℝ) ^ ((dividend.log2 : ℤ) - divisor.log2 - 1) < dividend / divisor ∧
    (dividend : ℝ) / divisor < 2 ^
      ((dividend.log2 : ℤ) - divisor.log2 + 1) := by
  have positive : (0 : ℝ) < divisor := by
    exact_mod_cast Nat.pos_of_ne_zero divisorNonzero
  have lowDividend : (2 : ℝ) ^ dividend.log2 ≤ dividend := by
    exact_mod_cast Nat.log2_self_le dividendNonzero
  have highDividend : (dividend : ℝ) < 2 ^ (dividend.log2 + 1) := by
    exact_mod_cast Nat.lt_log2_self
  have lowDivisor : (2 : ℝ) ^ divisor.log2 ≤ divisor := by
    exact_mod_cast Nat.log2_self_le divisorNonzero
  have highDivisor : (divisor : ℝ) < 2 ^ (divisor.log2 + 1) := by
    exact_mod_cast Nat.lt_log2_self
  constructor
  · rw [lt_div_iff₀ positive]
    calc
      (2 : ℝ) ^ ((dividend.log2 : ℤ) - divisor.log2 - 1) * divisor <
          2 ^ ((dividend.log2 : ℤ) - divisor.log2 - 1) *
            2 ^ (divisor.log2 + 1) :=
        mul_lt_mul_of_pos_left highDivisor (by positivity)
      _ = 2 ^ dividend.log2 := by
        rw [← zpow_natCast, ← zpow_add₀ two_ne_zero, ← zpow_natCast]
        congr 1
        omega
      _ ≤ dividend := lowDividend
  · rw [div_lt_iff₀ positive]
    calc
      (dividend : ℝ) < 2 ^ (dividend.log2 + 1) := highDividend
      _ = 2 ^ ((dividend.log2 : ℤ) - divisor.log2 + 1) * 2 ^ divisor.log2 := by
        rw [← zpow_natCast, ← zpow_natCast, ← zpow_add₀ two_ne_zero]
        congr 1
        omega
      _ ≤ 2 ^ ((dividend.log2 : ℤ) - divisor.log2 + 1) * divisor :=
        mul_le_mul_of_nonneg_left lowDivisor (by positivity)

/-- A zero of either sign is zero. -/
theorem rank?_ofModel_pack_zero (sign : Sign) :
    rank? (.ofModel (.pack (.zero sign))) = some ((0 : ℝ) : EReal) :=
  (rank?_ofModel_pack (.zero sign) trivial).trans
    (congrArg some (Unpacked.IsRank.zero.clip_eq (by decide)))

/-- A quotient of integers far below the range is rounded to zero. -/
theorem roundsTo_quotient_zero {numerator denominator : ℤ}
    (dividendNonzero : numerator ≠ 0) (divisorNonzero : denominator ≠ 0)
    (tiny : (numerator.natAbs.log2 : ℤ) - denominator.natAbs.log2 < -1200) :
    RoundsTo .binary64 ((numerator / denominator : ℝ) : EReal)
      ((0 : ℝ) : EReal) := by
  have positive : (0 : ℝ) ≤ (numerator.natAbs : ℝ) / denominator.natAbs := by
    positivity
  have below := (quotient_bounds (Int.natAbs_ne_zero.mpr dividendNonzero)
    (Int.natAbs_ne_zero.mpr divisorNonzero)).2
  have least : Format.binary64.minExponent = -1074 := by decide
  have rounding :
      IsRounding .binary64 (numerator.natAbs / denominator.natAbs) 0 :=
    Unpacked.isRounding_zero_of_small positive
      (below.trans_le (zpow_le_zpow_right₀ one_le_two (by omega)))
  have rounds := Unpacked.roundsTo_withSign positive rounding
    (quotientSign numerator denominator)
  have nothing : Unpacked.signed (quotientSign numerator denominator)
      ((0 : ℝ) : EReal) = ((0 : ℝ) : EReal) := by
    rw [Unpacked.signed_coe]
    cases quotientSign numerator denominator
    · exact congrArg Real.toEReal neg_zero
    · rfl
  rwa [withSign_quotientSign numerator divisorNonzero, nothing] at rounds

/-- A quotient of integers within the range becomes what it is rounded to. -/
theorem exists_ofQuotient? (numerator : ℤ) {denominator : ℤ}
    (nonzero : denominator ≠ 0) {exponent : ℕ} (small : exponent < integerBits)
    (bounded : |(numerator / denominator : ℝ)| ≤ 2 ^ exponent) :
    ∃ (real : ℝ) (quotient : Float),
      RoundsTo .binary64 ((numerator / denominator : ℝ) : EReal)
        (real : EReal) ∧
        |real| ≤ 2 ^ exponent ∧
          ofQuotient? numerator denominator = some quotient ∧
        rank? quotient = some (real : EReal) := by
  rw [ofQuotient?]
  have least : |(0 : ℝ)| ≤ 2 ^ exponent := by
    rw [abs_zero]
    positivity
  by_cases zero : numerator = 0
  · rw [if_pos zero, zero, Int.cast_zero, zero_div]
    exact ⟨0, _, Unpacked.roundsTo_zero _, least, rfl,
      rank?_ofModel_pack_zero _⟩
  · rw [if_neg zero]
    have sign := withSign_quotientSign numerator nonzero
    have dividendNonzero : 0 < numerator.natAbs := Int.natAbs_pos.mpr zero
    have divisorNonzero : 0 < denominator.natAbs := Int.natAbs_pos.mpr nonzero
    have positive : (0 : ℝ) ≤ (numerator.natAbs : ℝ) / denominator.natAbs := by
      positivity
    have size : (numerator.natAbs : ℝ) / denominator.natAbs ≤ 2 ^ exponent := by
      rwa [← sign, Unpacked.abs_withSign, abs_of_nonneg positive] at bounded
    have notLarge :
        ¬ 1200 < (numerator.natAbs.log2 : ℤ) - denominator.natAbs.log2 := by
      have above := quotient_bounds dividendNonzero.ne' divisorNonzero.ne'
      have exponents := above.1.trans_le size
      rw [← zpow_natCast] at exponents
      have most : integerBits = 1024 := rfl
      have powers := (zpow_lt_zpow_iff_right₀ one_lt_two).mp exponents
      omega
    dsimp only
    rw [if_neg notLarge]
    by_cases tiny :
      (numerator.natAbs.log2 : ℤ) - denominator.natAbs.log2 < -1200
    · rw [if_pos tiny]
      exact ⟨0, _, roundsTo_quotient_zero zero nonzero tiny, least, rfl,
        rank?_ofModel_pack_zero _⟩
    · rw [if_neg tiny]
      rcases Unpacked.isRounding_divCore .binary64
        (quotientSign numerator denominator) dividendNonzero divisorNonzero 0
          0 with ⟨magnitude, rounding, canonical, ranked⟩
      rw [units, units, zpow_zero, mul_one, mul_one] at rounding
      have rounds := Unpacked.roundsTo_withSign positive rounding
        (quotientSign numerator denominator)
      rw [sign] at rounds
      rcases rounds.exists_real small bounded with ⟨real, same, within, kept⟩
      have rankedNearest := (rank?_ofModel_pack _ canonical).trans
        (congrArg (Option.map (clip .binary64)) ranked)
      rw [Option.map_some, kept, same] at rankedNearest
      rw [same] at rounds
      exact ⟨real, _, rounds, within, if_pos (isFinite_of_rank? rankedNearest),
        rankedNearest⟩

/-- A product within the range is what the exact product is rounded to. -/
theorem exists_mul {first second : Float} {x y : ℝ}
    (firstRanked : rank? first = some (x : EReal))
    (secondRanked : rank? second = some (y : EReal)) {exponent : ℕ}
    (small : exponent < integerBits) (bounded : |x * y| ≤ 2 ^ exponent) :
    ∃ real : ℝ, RoundsTo .binary64 ((x * y : ℝ) : EReal) (real : EReal) ∧
      |real| ≤ 2 ^ exponent ∧ rank? (first * second) = some (real : EReal) := by
  rcases exists_rank?_mul firstRanked secondRanked with
    ⟨rounded, rounds, ranked⟩
  rcases rounds.exists_real small bounded with ⟨real, rfl, within, kept⟩
  exact ⟨real, rounds, within, ranked.trans (congrArg some kept)⟩

/-- So is a quotient. -/
theorem exists_div {first second : Float} {x y : ℝ}
    (firstRanked : rank? first = some (x : EReal))
    (secondRanked : rank? second = some (y : EReal)) (nonzero : y ≠ 0)
    {exponent : ℕ} (small : exponent < integerBits)
    (bounded : |x / y| ≤ 2 ^ exponent) :
    ∃ real : ℝ, RoundsTo .binary64 ((x / y : ℝ) : EReal) (real : EReal) ∧
      |real| ≤ 2 ^ exponent ∧ rank? (first / second) = some (real : EReal) := by
  rcases exists_rank?_div firstRanked secondRanked nonzero with
    ⟨rounded, rounds, ranked⟩
  rcases rounds.exists_real small bounded with ⟨real, rfl, within, kept⟩
  exact ⟨real, rounds, within, ranked.trans (congrArg some kept)⟩

/-- An integer within the range has a nearest double, which it is rounded to. -/
theorem exists_ofInt? {integer : ℤ} {exponent : ℕ}
    (small : exponent < integerBits)
    (bounded : |(integer : ℝ)| ≤ 2 ^ exponent) :
    ∃ (real : ℝ) (nearest : Float),
      RoundsTo .binary64 ((integer : ℝ) : EReal) (real : EReal) ∧
      |real| ≤ 2 ^ exponent ∧ ofInt? integer = some nearest ∧
        rank? nearest = some (real : EReal) := by
  rcases exists_rank?_ofInt integer with ⟨rounded, rounds, ranked⟩
  rcases rounds.exists_real small bounded with ⟨real, rfl, within, kept⟩
  have short : integer.natAbs.log2 < integerBits := by
    by_cases zero : integer = 0
    · rw [zero]
      decide
    · refine lt_of_le_of_lt ?_ small
      have absolute : ((integer.natAbs : ℕ) : ℝ) ≤ 2 ^ exponent := by
        rwa [Nat.cast_natAbs, Int.cast_abs]
      have powers : 2 ^ integer.natAbs.log2 ≤ 2 ^ exponent :=
        (Nat.log2_self_le (Int.natAbs_ne_zero.mpr zero)).trans
          (by exact_mod_cast absolute)
      exact (Nat.pow_le_pow_iff_right Nat.one_lt_two).mp powers
  have rankedReal := ranked.trans (congrArg some kept)
  refine ⟨real, ofInt integer, rounds, within, ?_, rankedReal⟩
  rw [ofInt?, if_pos short]
  exact if_pos (isFinite_of_rank? rankedReal)

/-- Finite doubles have real ranks, which lie within the range. -/
theorem exists_real_of_isFinite {number : Float}
    (finite : number.isFinite = true) :
    ∃ real : ℝ, rank? number = some (real : EReal) ∧
      |real| < 2 ^ integerBits := by
  have canonical :=
    Unpacked.isCanonical_unpack .binary64 number.toModel.toBits.toBitVec
  change number.toModel.unpack.isFinite = true at finite
  change Unpacked.IsCanonical .binary64 number.toModel.unpack at canonical
  rw [rank?]
  cases unpacked : number.toModel.unpack with
  | notANumber | infinity =>
      rw [unpacked] at finite
      cases finite
  | zero sign =>
      refine ⟨0, rfl, ?_⟩
      rw [abs_zero]
      positivity
  | finite sign mantissa exponent nonzero =>
      rw [unpacked] at canonical
      have small := Unpacked.lt_limit_of_unpack (by decide) unpacked
      have limited : Unpacked.limit .binary64 = 972 := by decide
      have bits : (Format.binary64.mantissaBits : ℤ) = 53 := by decide
      have most : integerBits = 1024 := rfl
      refine ⟨_, congrArg some (Unpacked.signed_coe sign _), ?_⟩
      rw [Unpacked.abs_withSign, abs_of_nonneg (by positivity), ← zpow_natCast]
      exact canonical.below.trans_le (zpow_le_zpow_right₀ one_le_two (by omega))

/-- A double whose rank is positive is not equal to zero. -/
theorem beq_zero_of_pos {number : Float} {real : ℝ}
    (ranked : rank? number = some (real : EReal)) (positive : 0 < real) :
    (number == 0.0) = false := by
  have zero := rank?_zero
  rw [Int.cast_zero] at zero
  rw [Bool.eq_false_iff, ne_eq, beq_iff, ranked, zero]
  rintro ⟨rank, same, none⟩
  have equal := EReal.coe_eq_coe_iff.mp
    ((Option.some.inj same).trans (Option.some.inj none).symm)
  exact positive.ne' equal

end Double

end SoundGrid.Number
