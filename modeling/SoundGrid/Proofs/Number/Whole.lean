import SoundGrid.Proofs.Number.Double
import SoundGrid.Proofs.Number.Packing

/-!
# Whole doubles

A double is whole when its rank is an integer, and the integer is then what
truncation gives.  That integer is converted back into a double of the same
rank: it has a place in the format already, so nothing is rounded, and it is not
too large, for what is read out of bits never is.
-/

namespace SoundGrid.Number

open Float.Model (Format UnpackedFloat)
open Float.Model.UnpackedFloat (Sign)

/-! ## Numbers of a format -/

namespace Unpacked

variable {format : Format}

theorem lt_limit_of_unpack (wide : 1 < format.exponentBits)
    {bits : BitVec format.numBits} {sign : Sign} {mantissa : ℕ} {exponent : ℤ}
    {nonzero : 0 < mantissa}
    (read : UnpackedFloat.unpack format bits =
      .finite sign mantissa exponent nonzero) :
    exponent < limit format := by
  have capacity : 2 ^ 2 ≤ 2 ^ format.exponentBits :=
    Nat.pow_le_pow_right two_pos wide
  simp only [UnpackedFloat.unpack] at read
  rw [limit]
  split at read
  · split at read <;> cases read
  · next notLast =>
    have inside : (UnpackedFloat.unpackExponent bits).toNat + 1 <
        2 ^ format.exponentBits := by
      have bounded := (UnpackedFloat.unpackExponent bits).isLt
      have different : (UnpackedFloat.unpackExponent bits).toNat ≠
          2 ^ format.exponentBits - 1 := by
        intro last
        apply notLast
        apply BitVec.eq_of_toNat_eq
        rw [BitVec.neg_one_eq_allOnes, BitVec.toNat_allOnes, last]
      omega
    have capacityInt : (4 : ℤ) ≤ 2 ^ format.exponentBits := by
      exact_mod_cast capacity
    have insideInt : ((UnpackedFloat.unpackExponent bits).toNat : ℤ) + 1 <
        2 ^ format.exponentBits := by exact_mod_cast inside
    split at read
    · next subnormal =>
      have zero : (UnpackedFloat.unpackExponent bits).toNat = 0 := by
        rw [subnormal]
        rfl
      split at read
      · cases read
      · cases read
        omega
    · cases read
      omega

/-- A number of the format is rounded to itself. -/
theorem isRounding_units {mantissa : ℕ} {exponent : ℤ}
    (isPlace : IsPlace format (units mantissa exponent) exponent) :
    IsRounding format (units mantissa exponent) (units mantissa exponent) := by
  refine ⟨exponent, mantissa, isPlace, ?_, rfl⟩
  rw [units, mul_assoc, ← zpow_add₀ two_ne_zero, add_neg_cancel,
    zpow_zero, mul_one]
  exact isNearest_natCast mantissa

/-- So a natural number of the format that is not too large gets through. -/
theorem rank?_unpack_pack_round (wide : 1 < format.exponentBits) (sign : Sign)
    {natural mantissa : ℕ} {exponent : ℤ} (nonzero : 0 < natural)
    (isPlace : IsPlace format (units mantissa exponent) exponent)
    (small : exponent < limit format)
    (same : (natural : ℝ) = units mantissa exponent) :
    rank? (UnpackedFloat.unpack format (UnpackedFloat.pack format
        (.round format sign natural 0))) =
        some (signed sign (natural : ℝ)) := by
  rcases isRounding_round format sign 0 nonzero with
    ⟨rounded, rounding, canonical, ranked⟩
  rw [zpow_zero, mul_one, same] at rounding
  have exact : rounded = units mantissa exponent :=
    le_antisymm (rounding.mono (isRounding_units isPlace) (le_refl _))
      ((isRounding_units isPlace).mono rounding (le_refl _))
  have notNegative : (0 : EReal) ≤ units mantissa exponent := by
    rw [← same]
    exact_mod_cast Nat.zero_le natural
  have notLarge :
      ¬ bound format ≤ (units mantissa exponent : EReal) := fun large =>
    not_le.mpr small ((bound_le_iff wide isPlace).mp large)
  rw [rank?_unpack_pack wide canonical, ranked, exact, Option.map_some,
    clip_signed sign notNegative, if_neg notLarge, same]

end Unpacked

/-! ## Whole numbers -/

/-- A scaled integer equals an integer when it is whole and truncated to it. -/
theorem Scaled.compareInt_eq_eq_iff {number : Scaled} {integer : ℤ} :
    number.compareInt integer = .eq ↔
      number.isWhole = true ∧ number.truncate = integer := by
  have positive : (number.divisor : ℤ) ≠ 0 := by
    have divisor := number.divisor_pos
    omega
  rw [Scaled.compareInt, compare_eq_iff_eq]
  constructor
  · intro same
    rw [isWhole, truncate, same]
    exact ⟨by simp, Int.mul_tdiv_cancel _ positive⟩
  · rintro ⟨whole, rfl⟩
    exact (truncate_of_isWhole whole).symm

/-- An integer is below the ceiling when it is below the number. -/
theorem Scaled.lt_ceiling_iff {number : Scaled} {integer : ℤ} :
    integer < number.ceiling ↔ number.compareInt integer = .gt := by
  have positive : (0 : ℤ) < number.divisor := by
    exact_mod_cast number.divisor_pos
  rw [Scaled.compareInt, compare_gt_iff_gt, ceiling, lt_neg,
    Int.ediv_lt_iff_lt_mul positive, neg_mul, neg_lt_neg_iff]

namespace Double

/-- The ceiling of a double is that of its rank. -/
theorem ceiling?_eq {number : Float} {real : ℝ}
    (ranked : rank? number = some (real : EReal)) :
    ceiling? number = some ⌈real⌉ := by
  rcases isFinite_iff_scaled?.mp (isFinite_of_rank? ranked) with
    ⟨exact, isExact⟩
  have below (integer : ℤ) : integer < exact.ceiling ↔ integer < ⌈real⌉ := by
    rw [Scaled.lt_ceiling_iff, compareInt_of_scaled? isExact ranked,
      compare_gt_iff_gt, EReal.coe_lt_coe_iff, Int.lt_ceil]
  rw [ceiling?, isExact, Option.map_some, Option.some.injEq]
  exact le_antisymm (not_lt.mp fun beyond => lt_irrefl _ ((below _).mp beyond))
    (not_lt.mp fun beyond => lt_irrefl _ ((below _).mpr beyond))

/-- The rank of a double is an integer when the double is whole. -/
theorem rank?_eq_intCast_iff {number : Float} {integer : ℤ} :
    rank? number = some ((integer : ℝ) : EReal) ↔
      isWhole number = true ∧ truncate? number = some integer := by
  have compared : compareInt number integer = some .eq ↔
      rank? number = some ((integer : ℝ) : EReal) := by
    rw [compareInt_eq]
    cases rank? number with
    | none => simp
    | some rank => simp
  rw [← compared]
  unfold compareInt isWhole truncate?
  cases scaled? number with
  | some exact => simp [Scaled.compareInt_eq_eq_iff]
  | none =>
      cases number.isNaN with
      | true => simp
      | false =>
          cases isNegative number with
          | true => simp
          | false => simp

theorem rank?_zero : rank? 0.0 = some (((0 : ℤ) : ℝ) : EReal) :=
  rank?_eq_intCast_iff.mpr ⟨by decide +kernel, by decide +kernel⟩

theorem rank?_one : rank? 1.0 = some (((1 : ℤ) : ℝ) : EReal) :=
  rank?_eq_intCast_iff.mpr ⟨by decide +kernel, by decide +kernel⟩

/-- An integer that is a rank of a double has a place in the format. -/
theorem exists_units_of_rank? {number : Float} {integer : ℤ}
    (ranked : rank? number = some ((integer : ℝ) : EReal))
    (nonzero : integer ≠ 0) :
    ∃ (mantissa : ℕ) (exponent : ℤ),
      IsPlace .binary64 (units mantissa exponent) exponent ∧
        exponent < Unpacked.limit .binary64 ∧
        (integer.natAbs : ℝ) = units mantissa exponent := by
  have isFinite := isFinite_of_rank? ranked
  change number.toModel.unpack.isFinite = true at isFinite
  rw [rank?] at ranked
  cases unpacked : number.toModel.unpack with
  | notANumber | infinity =>
      rw [unpacked] at isFinite
      cases isFinite
  | zero sign =>
      rw [unpacked] at ranked
      have zero : (0 : EReal) = ((integer : ℝ) : EReal) :=
        Option.some.inj ranked
      exact absurd (by exact_mod_cast zero.symm) nonzero
  | finite sign mantissa exponent positive =>
      have canonical :=
        Unpacked.isCanonical_unpack .binary64 number.toModel.toBits.toBitVec
      change Unpacked.IsCanonical .binary64 number.toModel.unpack at canonical
      rw [unpacked] at canonical ranked
      refine ⟨mantissa, exponent, canonical,
        Unpacked.lt_limit_of_unpack (by decide) unpacked, ?_⟩
      have magnitude : (0 : ℝ) < units mantissa exponent := by positivity
      have same := Option.some.inj ranked
      rw [Nat.cast_natAbs, Int.cast_abs]
      cases sign
      · have negated :
            ((-(units mantissa exponent) : ℝ) : EReal) = (integer : ℝ) := same
        rw [← EReal.coe_eq_coe_iff.mp negated, abs_neg, abs_of_pos magnitude]
      · rw [← EReal.coe_eq_coe_iff.mp same, abs_of_pos magnitude]

/-- An integer other than zero is converted by rounding its absolute value. -/
theorem ofInt_eq_round {integer : ℤ} (nonzero : integer ≠ 0) :
    ∃ sign, Unpacked.withSign sign (integer.natAbs : ℝ) = integer ∧
      ofInt integer =
        .ofModel (.pack (.round .binary64 sign integer.natAbs 0)) := by
  have made (result : UnpackedFloat)
      (normalized : UnpackedFloat.ofInt .binary64 integer = result) :
      ofInt integer = .ofModel (.pack result) := by
    rw [← normalized]
    rfl
  rcases lt_or_gt_of_ne nonzero with below | above
  · have magnitude : (-integer).toNat = integer.natAbs := by omega
    refine ⟨.negative, ?_, made _ ?_⟩
    · rw [Unpacked.withSign, Nat.cast_natAbs, abs_of_neg below,
        Int.cast_neg, neg_neg]
    · rw [UnpackedFloat.ofInt, UnpackedFloat.normalize,
        compare_lt_iff_lt.mpr below, ← magnitude]
  · have magnitude : integer.toNat = integer.natAbs := by omega
    refine ⟨.positive, ?_, made _ ?_⟩
    · rw [Unpacked.withSign, Nat.cast_natAbs, abs_of_pos above]
    · rw [UnpackedFloat.ofInt, UnpackedFloat.normalize,
        compare_gt_iff_gt.mpr above, ← magnitude]

/--
An integer that is a rank of a double is converted into a double of that rank.
-/
theorem rank?_ofInt {number : Float} {integer : ℤ}
    (ranked : rank? number = some ((integer : ℝ) : EReal)) :
    rank? (ofInt integer) = some ((integer : ℝ) : EReal) := by
  by_cases zero : integer = 0
  · have rank : (((0 : ℤ) : ℝ) : EReal) = 0 := by simp
    rw [zero, rank]
    rfl
  · rcases exists_units_of_rank? ranked zero with
      ⟨mantissa, exponent, isPlace, small, same⟩
    rcases ofInt_eq_round zero with ⟨sign, kept, rounded⟩
    rw [rounded, ← kept, ← Unpacked.signed_coe]
    exact Unpacked.rank?_unpack_pack_round (by decide) sign
      (Int.natAbs_pos.mpr zero) isPlace small same

/--
The integer of a whole double is converted into a finite double with that
integer.
-/
theorem ofInt?_of_isWhole {number : Float} {integer : ℤ}
    (whole : isWhole number = true)
    (truncated : truncate? number = some integer) :
    ∃ nearest, ofInt? integer = some nearest ∧ nearest.isFinite = true ∧
      rank? nearest = some ((integer : ℝ) : EReal) := by
  have ranked := rank?_eq_intCast_iff.mpr ⟨whole, truncated⟩
  have converted := rank?_ofInt ranked
  have finite := isFinite_of_rank? converted
  have short : integer.natAbs.log2 < integerBits := by
    by_cases zero : integer = 0
    · rw [zero]
      decide
    · rcases exists_units_of_rank? ranked zero with
        ⟨mantissa, exponent, isPlace, small, same⟩
      have below := isPlace.below
      rw [← same] at below
      have powers : (2 : ℝ) ^ ((Format.mantissaBits .binary64 : ℤ) + exponent) ≤
          2 ^ (integerBits : ℤ) := by
        have limited : Unpacked.limit .binary64 = 972 := by decide
        have bits : (Format.mantissaBits .binary64 : ℤ) = 53 := by decide
        have most : (integerBits : ℤ) = 1024 := rfl
        exact zpow_le_zpow_right₀ one_le_two (by omega)
      have bounded : integer.natAbs < 2 ^ integerBits := by
        have reals := below.trans_le powers
        rw [zpow_natCast] at reals
        exact_mod_cast reals
      exact (Nat.log2_lt (Int.natAbs_ne_zero.mpr zero)).mpr bounded
  rw [ofInt?, if_pos short]
  exact ⟨ofInt integer, if_pos finite, finite, converted⟩

end Double

end SoundGrid.Number
