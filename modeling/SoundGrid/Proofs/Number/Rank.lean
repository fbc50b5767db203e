import SoundGrid.Number
import SoundGrid.Proofs.Number.Place

/-!
# Ranks

Floating-point numbers of both precisions and integers of any size are compared
by the extended real numbers that they stand for, their ranks; a NaN has none.
For two numbers of one format this needs that their mantissas and exponents are
canonical: every exponent is the place of its number.  What is read out of bits
always is.
-/

namespace SoundGrid.Number

open Float.Model (Format UnpackedFloat)
open Float.Model.UnpackedFloat (Sign)

/-- Both ranks in order; `none` when one of them is missing. -/
noncomputable abbrev compareRanks
    (first second : Option EReal) : Option Ordering :=
  Option.map₂ compare first second

theorem compareRanks_of_lt {first second : EReal} (below : first < second) :
    compareRanks (some first) (some second) = some .lt := by
  rw [compareRanks, Option.map₂_some_some, compare_lt_iff_lt.mpr below]

theorem compareRanks_of_gt {first second : EReal} (above : second < first) :
    compareRanks (some first) (some second) = some .gt := by
  rw [compareRanks, Option.map₂_some_some, compare_gt_iff_gt.mpr above]

theorem compareRanks_self (rank : EReal) :
    compareRanks (some rank) (some rank) = some .eq := by
  rw [compareRanks, Option.map₂_some_some, compare_eq_iff_eq.mpr rfl]

/-! ## Unpacked numbers -/

namespace Unpacked

/-- A rank with a sign. -/
noncomputable def signed : Sign → EReal → EReal
  | .positive, rank => rank
  | .negative, rank => -rank

/-- A real number with a sign. -/
def withSign : Sign → ℝ → ℝ
  | .positive, real => real
  | .negative, real => -real

theorem signed_coe (sign : Sign) (real : ℝ) :
    signed sign (real : EReal) = (withSign sign real : EReal) := by
  cases sign
  · exact (EReal.coe_neg real).symm
  · rfl

/-- The rank of an unpacked number. -/
noncomputable def rank? : UnpackedFloat → Option EReal
  | .notANumber => none
  | .infinity sign => some (signed sign ⊤)
  | .zero _ => some 0
  | .finite sign mantissa exponent _ =>
      some (signed sign (units mantissa exponent))

/-- An unpacked number whose exponent is its place. -/
def IsCanonical (format : Format) : UnpackedFloat → Prop
  | .finite _ mantissa exponent _ =>
      IsPlace format (units mantissa exponent) exponent
  | _ => True

theorem compare_magnitudes {format : Format} {first second : ℕ} {left right : ℤ}
    (firstPlace : IsPlace format (first * 2 ^ left) left)
    (secondPlace : IsPlace format (second * 2 ^ right) right) :
    (compare left right).then (compare first second) =
      cmp ((first * 2 ^ left : ℝ) : EReal)
        ((second * 2 ^ right : ℝ) : EReal) := by
  rw [EReal.coe_strictMono.cmp_map_eq]
  rcases lt_trichotomy left right with before | rfl | after
  · rw [compare_lt_iff_lt.mpr before, Ordering.lt_then]
    have ordered : ¬ (second * 2 ^ right : ℝ) ≤ first * 2 ^ left := fun above =>
      not_le.mpr before (secondPlace.mono firstPlace above)
    exact ((cmp_eq_lt_iff _ _).mpr (not_le.mp ordered)).symm
  · rw [compare_eq_iff_eq.mpr rfl, Ordering.eq_then]
    have scale : StrictMono fun mantissa : ℕ => (mantissa * 2 ^ left : ℝ) := by
      intro lower upper below
      have belowReal : (lower : ℝ) < upper := by exact_mod_cast below
      exact mul_lt_mul_of_pos_right belowReal (by positivity)
    rw [scale.cmp_map_eq, cmp_eq_compare]
  · rw [compare_gt_iff_gt.mpr after, Ordering.gt_then]
    have ordered : ¬ (first * 2 ^ left : ℝ) ≤ second * 2 ^ right := fun above =>
      not_le.mpr after (firstPlace.mono secondPlace above)
    exact ((cmp_eq_gt_iff _ _).mpr (not_le.mp ordered)).symm

theorem magnitude_pos {mantissa : ℕ} (exponent : ℤ) (nonzero : 0 < mantissa) :
    (0 : EReal) < ((mantissa * 2 ^ exponent : ℝ) : EReal) := by
  have mantissaReal : (0 : ℝ) < mantissa := by exact_mod_cast nonzero
  exact EReal.coe_pos.mpr (by positivity)

theorem neg_magnitude_neg {mantissa : ℕ} (exponent : ℤ)
    (nonzero : 0 < mantissa) : -((mantissa * 2 ^ exponent : ℝ) : EReal) < 0 :=
  EReal.neg_lt_zero.mpr (magnitude_pos exponent nonzero)

theorem compare_infinity (sign : Sign) (second : UnpackedFloat) :
    (UnpackedFloat.infinity sign).compare second =
      compareRanks (some (signed sign ⊤)) (rank? second) := by
  cases second with
  | notANumber => cases sign <;> rfl
  | infinity other =>
      cases sign <;> cases other
      · exact (compareRanks_self ⊥).symm
      · exact (compareRanks_of_lt bot_lt_top).symm
      · exact (compareRanks_of_gt bot_lt_top).symm
      · exact (compareRanks_self ⊤).symm
  | zero =>
      cases sign
      · exact (compareRanks_of_lt EReal.bot_lt_zero).symm
      · exact (compareRanks_of_gt EReal.zero_lt_top).symm
  | finite other mantissa exponent nonzero =>
      cases sign <;> cases other
      · exact (compareRanks_of_lt (EReal.bot_lt_coe _)).symm
      · exact (compareRanks_of_lt (EReal.bot_lt_coe _)).symm
      · exact (compareRanks_of_gt (EReal.coe_lt_top _)).symm
      · exact (compareRanks_of_gt (EReal.coe_lt_top _)).symm

theorem compare_zero (sign : Sign) (second : UnpackedFloat) :
    (UnpackedFloat.zero sign).compare second =
      compareRanks (some 0) (rank? second) := by
  cases second with
  | notANumber => rfl
  | infinity other =>
      cases other
      · exact (compareRanks_of_gt EReal.bot_lt_zero).symm
      · exact (compareRanks_of_lt EReal.zero_lt_top).symm
  | zero => exact (compareRanks_self 0).symm
  | finite other mantissa exponent nonzero =>
      cases other
      · exact (compareRanks_of_gt (neg_magnitude_neg exponent nonzero)).symm
      · exact (compareRanks_of_lt (magnitude_pos exponent nonzero)).symm

/-- Canonical numbers of one format are compared by their ranks. -/
theorem compare_eq {format : Format} {first second : UnpackedFloat}
    (firstCanonical : IsCanonical format first)
    (secondCanonical : IsCanonical format second) :
    first.compare second = compareRanks (rank? first) (rank? second) := by
  cases first with
  | notANumber => rfl
  | infinity sign => exact compare_infinity sign second
  | zero sign => exact compare_zero sign second
  | finite sign mantissa exponent nonzero =>
      cases second with
      | notANumber => cases sign <;> rfl
      | infinity other =>
          cases sign <;> cases other
          · exact (compareRanks_of_gt (EReal.bot_lt_coe _)).symm
          · exact (compareRanks_of_lt (EReal.coe_lt_top _)).symm
          · exact (compareRanks_of_gt (EReal.bot_lt_coe _)).symm
          · exact (compareRanks_of_lt (EReal.coe_lt_top _)).symm
      | zero =>
          cases sign
          · exact (compareRanks_of_lt (neg_magnitude_neg exponent nonzero)).symm
          · exact (compareRanks_of_gt (magnitude_pos exponent nonzero)).symm
      | finite other otherMantissa otherExponent otherNonzero =>
          have magnitudes := compare_magnitudes firstCanonical secondCanonical
          have positive := magnitude_pos exponent nonzero
          have otherPositive := magnitude_pos otherExponent otherNonzero
          have negative := neg_magnitude_neg exponent nonzero
          have otherNegative := neg_magnitude_neg otherExponent otherNonzero
          cases sign <;> cases other
          · change some ((compare _ _).then (compare _ _)).swap =
              some (compare (-_) (-_))
            rw [magnitudes, cmp_swap, ← cmp_eq_compare,
              EReal.neg_strictAnti.cmp_map_eq]
          · exact (compareRanks_of_lt (negative.trans otherPositive)).symm
          · exact (compareRanks_of_gt (otherNegative.trans positive)).symm
          · change some ((compare _ _).then (compare _ _)) = some (compare _ _)
            rw [magnitudes, cmp_eq_compare]
            rfl

/-- Canonical numbers are those with a mantissa of the right length. -/
theorem isPlace_units_iff {format : Format} {mantissa : ℕ} {exponent : ℤ} :
    IsPlace format (units mantissa exponent) exponent ↔
      format.minExponent ≤ exponent ∧ mantissa < 2 ^ format.mantissaBits ∧
        (format.minExponent < exponent →
          2 ^ format.mantissaBitsWithoutImplicit ≤ mantissa) := by
  have positive : (0 : ℝ) < 2 ^ exponent := by positivity
  have below : units mantissa exponent < 2 ^ (format.mantissaBits + exponent) ↔
      mantissa < 2 ^ format.mantissaBits := by
    rw [zpow_add₀ two_ne_zero, zpow_natCast, mul_lt_mul_iff_left₀ positive]
    exact_mod_cast Iff.rfl
  have full :
      (2 : ℝ) ^ (format.mantissaBits + exponent - 1) ≤ units mantissa exponent ↔
      2 ^ format.mantissaBitsWithoutImplicit ≤ mantissa := by
    have bits : (format.mantissaBits : ℤ) + exponent - 1 =
        format.mantissaBitsWithoutImplicit + exponent := by
      rw [Format.mantissaBits]
      omega
    rw [bits, zpow_add₀ two_ne_zero, zpow_natCast,
      mul_le_mul_iff_left₀ positive]
    exact_mod_cast Iff.rfl
  constructor
  · intro isPlace
    exact ⟨isPlace.least, below.mp isPlace.below, fun beyond =>
      full.mp (isPlace.full beyond)⟩
  · rintro ⟨least, short, long⟩
    exact ⟨least, below.mpr short, fun beyond => full.mpr (long beyond)⟩

theorem minExponent_eq (format : Format) :
    format.minExponent =
      1 - (format.exponentBias + format.mantissaBitsWithoutImplicit : ℤ) := by
  have positive : 0 < 2 ^ (format.exponentBits - 1) := Nat.two_pow_pos _
  have cast : ((2 ^ (format.exponentBits - 1) : ℕ) : ℤ) =
      2 ^ (format.exponentBits - 1) := by
    push_cast
    rfl
  rw [Format.minExponent, Format.exponentBias, Format.mantissaBits]
  omega

theorem toNat_one_append {bits : ℕ} (mantissa : BitVec bits) :
    (1#1 ++ mantissa).toNat = 2 ^ bits + mantissa.toNat := by
  rw [BitVec.toNat_append, ← Nat.shiftLeft_add_eq_or_of_lt mantissa.isLt,
    Nat.shiftLeft_eq, BitVec.toNat_ofNat,
    Nat.one_mod_two_pow Nat.one_pos, one_mul]

/-- What is read out of bits is canonical. -/
theorem isCanonical_unpack (format : Format) (bits : BitVec format.numBits) :
    IsCanonical format (UnpackedFloat.unpack format bits) := by
  have least := minExponent_eq format
  have implicitBit := two_pow_mantissaBits format
  have short := (UnpackedFloat.unpackMantissa bits).isLt
  simp only [UnpackedFloat.unpack]
  split
  · split <;> trivial
  · split
    next subnormal =>
      split
      · trivial
      · have zero : (UnpackedFloat.unpackExponent bits).toNat = 0 := by
          rw [subnormal]
          rfl
        exact isPlace_units_iff.mpr ⟨by omega, by omega, by omega⟩
    next normal =>
      have positive : 0 < (UnpackedFloat.unpackExponent bits).toNat :=
        BitVec.toNat_pos_of_ne_zero normal
      have mantissa := toNat_one_append (UnpackedFloat.unpackMantissa bits)
      exact isPlace_units_iff.mpr ⟨by omega, by omega, by omega⟩

end Unpacked

/-! ## Doubles, singles and numbers -/

/-- The rank of a double. -/
noncomputable def Double.rank? (number : Float) : Option EReal :=
  Unpacked.rank? number.toModel.unpack

/-- The rank of a single. -/
noncomputable def Single.rank? (number : Float32) : Option EReal :=
  Unpacked.rank? number.toModel.unpack

/-- The rank of a number. -/
noncomputable def rank? : Number → Option EReal
  | .int value => some (value : ℝ)
  | .double value => Double.rank? value

theorem Double.compare_eq (first second : Float) :
    first.toModel.compare second.toModel =
      compareRanks (rank? first) (rank? second) :=
  Unpacked.compare_eq (Unpacked.isCanonical_unpack _ _)
    (Unpacked.isCanonical_unpack _ _)

theorem Single.compare_eq (first second : Float32) :
    first.toModel.compare second.toModel =
      compareRanks (rank? first) (rank? second) :=
  Unpacked.compare_eq (Unpacked.isCanonical_unpack _ _)
    (Unpacked.isCanonical_unpack _ _)

/-- Doubles stand in an order when they have ranks that stand in it. -/
theorem Double.compare_iff {first second : Float} {isSought : Ordering → Bool} :
    (first.toModel.compare second.toModel).any isSought = true ↔
      ∃ lower upper, rank? first = some lower ∧ rank? second = some upper ∧
        isSought (compare lower upper) = true := by
  rw [Double.compare_eq]
  cases rank? first with
  | none => simp
  | some lower =>
      cases rank? second with
      | none => simp
      | some upper => simp

theorem Double.le_iff {first second : Float} :
    first ≤ second ↔ ∃ lower upper, rank? first = some lower ∧
      rank? second = some upper ∧ lower ≤ upper := by
  change decide (first.toModel ≤ second.toModel) = true ↔ _
  rw [decide_eq_true_iff]
  refine Double.compare_iff.trans ?_
  simp only [← compare_le_iff_le, Ordering.isLE_iff_ne_gt]

theorem Double.lt_iff {first second : Float} :
    first < second ↔ ∃ lower upper, rank? first = some lower ∧
      rank? second = some upper ∧ lower < upper := by
  have isLess (order : Option Ordering) :
      (order == some .lt) = order.any (· == .lt) := by
    cases order <;> rfl
  change decide (first.toModel < second.toModel) = true ↔ _
  rw [decide_eq_true_iff]
  change (first.toModel.compare second.toModel == some .lt) = true ↔ _
  rw [isLess, Double.compare_iff]
  simp only [beq_iff_eq, compare_lt_iff_lt]

theorem Double.exists_rank?_of_isFinite {number : Float}
    (finite : number.isFinite = true) : ∃ rank, rank? number = some rank := by
  change number.toModel.unpack.isFinite = true at finite
  rw [rank?]
  cases unpacked : number.toModel.unpack with
  | notANumber =>
      rw [unpacked] at finite
      cases finite
  | infinity | zero | finite => exact ⟨_, rfl⟩

theorem Double.isFinite_of_rank? {number : Float} {real : ℝ}
    (ranked : rank? number = some (real : EReal)) : number.isFinite = true := by
  rw [rank?] at ranked
  change number.toModel.unpack.isFinite = true
  cases unpacked : number.toModel.unpack with
  | notANumber =>
      rw [unpacked] at ranked
      cases ranked
  | infinity sign =>
      rw [unpacked] at ranked
      cases sign
      · exact absurd (Option.some.inj ranked).symm (EReal.coe_ne_bot real)
      · exact absurd (Option.some.inj ranked).symm (EReal.coe_ne_top real)
  | zero | finite => rfl

/-- Finite doubles are ordered one way or the other. -/
theorem Double.not_lt_iff {first second : Float}
    (firstFinite : first.isFinite = true)
    (secondFinite : second.isFinite = true) :
    ¬ first < second ↔ second ≤ first := by
  rcases exists_rank?_of_isFinite firstFinite with ⟨firstRank, firstRanked⟩
  rcases exists_rank?_of_isFinite secondFinite with ⟨secondRank, secondRanked⟩
  simp [Double.lt_iff, Double.le_iff, firstRanked, secondRanked]

theorem Double.le_of_lt {first second : Float}
    (below : first < second) : first ≤ second := by
  rcases Double.lt_iff.mp below with
    ⟨lower, upper, firstRanked, secondRanked, ordered⟩
  exact Double.le_iff.mpr ⟨lower, upper, firstRanked, secondRanked, ordered.le⟩

theorem Double.not_lt_of_le {first second : Float} (below : first ≤ second) :
    ¬ second < first := by
  rcases Double.le_iff.mp below with
    ⟨lower, upper, firstRanked, secondRanked, ordered⟩
  simp [Double.lt_iff, firstRanked, secondRanked, ordered]

theorem Double.le_trans {first second third : Float} (below : first ≤ second)
    (above : second ≤ third) : first ≤ third := by
  rcases Double.le_iff.mp below with
    ⟨lower, middle, firstRanked, secondRanked, ordered⟩
  rcases Double.le_iff.mp above with
    ⟨other, upper, otherRanked, thirdRanked, further⟩
  rw [secondRanked] at otherRanked
  cases otherRanked
  exact Double.le_iff.mpr ⟨lower, upper, firstRanked, thirdRanked,
    ordered.trans further⟩

/-! ## Exact numbers -/

/-- A mantissa and an exponent make a quotient. -/
theorem Scaled.cast_numerator (number : Scaled) :
    (number.numerator : ℝ) =
      number.mantissa * 2 ^ number.exponent * number.divisor := by
  have split :
      number.exponent + ((-number.exponent).toNat : ℤ) =
        (number.exponent.toNat : ℤ) := by
    omega
  rw [Scaled.numerator, Scaled.factor, Scaled.divisor, Nat.pow_eq, Nat.pow_eq]
  push_cast
  rw [mul_assoc, ← zpow_natCast, ← zpow_natCast, ← zpow_add₀ two_ne_zero, split]

theorem Scaled.cast_toRat (number : Scaled) :
    (number.toRat : ℝ) = number.mantissa * 2 ^ number.exponent := by
  have divisor : (number.divisor : ℝ) ≠ 0 := by
    exact_mod_cast number.divisor_pos.ne'
  rw [Scaled.toRat, Rat.mkRat_eq_div, Rat.cast_div, Rat.cast_intCast,
    Rat.cast_natCast, Scaled.cast_numerator, mul_div_cancel_right₀ _ divisor]

/-- The exact number that a mantissa and an exponent make. -/
theorem Scaled.compareInt_eq (number : Scaled) (integer : ℤ) :
    number.compareInt integer =
      compare ((number.mantissa * 2 ^ number.exponent : ℝ) : EReal)
        (integer : ℝ) := by
  have divisor : (0 : ℝ) < number.divisor := by
    exact_mod_cast number.divisor_pos
  have scale : StrictMono fun value : ℝ => value * number.divisor :=
    fun lower upper below => mul_lt_mul_of_pos_right below divisor
  calc
    number.compareInt integer =
      cmp number.numerator (integer * number.divisor) :=
      (cmp_eq_compare _ _).symm
    _ = cmp (number.numerator : ℝ) ((integer * number.divisor : ℤ) : ℝ) :=
      (Int.cast_strictMono.cmp_map_eq _ _).symm
    _ = cmp (number.mantissa * 2 ^ number.exponent * number.divisor : ℝ)
          (integer * number.divisor) := by
      rw [Scaled.cast_numerator, Int.cast_mul, Int.cast_natCast]
    _ = cmp (number.mantissa * 2 ^ number.exponent : ℝ) integer :=
      scale.cmp_map_eq _ _
    _ = cmp ((number.mantissa * 2 ^ number.exponent : ℝ) : EReal)
        (integer : ℝ) :=
      (EReal.coe_strictMono.cmp_map_eq _ _).symm
    _ = compare ((number.mantissa * 2 ^ number.exponent : ℝ) : EReal)
        (integer : ℝ) :=
      cmp_eq_compare _ _

/-- The rank of a double with an exact value is this value. -/
theorem Double.rank?_of_scaled? {number : Float} {exact : Scaled}
    (isExact : scaled? number = some exact) :
    rank? number =
      some ((exact.mantissa * 2 ^ exact.exponent : ℝ) : EReal) := by
  rw [scaled?] at isExact
  rw [rank?]
  cases unpacked : number.toModel.unpack with
  | notANumber | infinity =>
      rw [unpacked] at isExact
      cases isExact
  | zero sign =>
      rw [unpacked] at isExact
      cases isExact
      simp [Unpacked.rank?]
  | finite sign mantissa exponent nonzero =>
      rw [unpacked] at isExact
      cases sign
      · cases isExact
        rw [Int.cast_neg, neg_mul]
        rfl
      · cases isExact
        rfl

/-- An exact value and a real rank have one order with the integers. -/
theorem Double.compareInt_of_scaled? {number : Float} {exact : Scaled}
    {real : ℝ} (isExact : scaled? number = some exact)
    (ranked : rank? number = some (real : EReal)) (integer : ℤ) :
    exact.compareInt integer = compare (real : EReal) (integer : ℝ) := by
  rw [rank?_of_scaled? isExact] at ranked
  rw [Scaled.compareInt_eq, Option.some.inj ranked]

theorem Double.compareInt_eq (number : Float) (integer : ℤ) :
    compareInt number integer =
      compareRanks (rank? number) (some (integer : ℝ)) := by
  cases isExact : scaled? number with
  | some exact =>
      rw [compareInt, isExact, rank?_of_scaled? isExact]
      exact congrArg some (Scaled.compareInt_eq exact integer)
  | none =>
      have undefined : number.isNaN = number.toModel.unpack.isNaN := rfl
      rw [scaled?] at isExact
      rw [compareInt, undefined, isNegative, scaled?, rank?]
      cases unpacked : number.toModel.unpack with
      | notANumber => rfl
      | infinity sign =>
          cases sign
          · exact (compareRanks_of_lt (EReal.bot_lt_coe _)).symm
          · exact (compareRanks_of_gt (EReal.coe_lt_top _)).symm
      | zero sign =>
          rw [unpacked] at isExact
          cases isExact
      | finite sign mantissa exponent nonzero =>
          rw [unpacked] at isExact
          cases sign <;> cases isExact

/-- Numbers are compared by their ranks. -/
theorem compare?_eq (first second : Number) :
    first.compare? second = compareRanks first.rank? second.rank? := by
  cases first with
  | int left =>
      cases second with
      | int right =>
          have scale : StrictMono fun value : ℤ => ((value : ℝ) : EReal) :=
            fun lower upper below =>
              EReal.coe_strictMono (Int.cast_strictMono below)
          change some (compare left right) =
            some (compare ((left : ℝ) : EReal) (right : ℝ))
          rw [← cmp_eq_compare, ← cmp_eq_compare, scale.cmp_map_eq]
      | double right =>
          change (Double.compareInt right left).map Ordering.swap =
            compareRanks (some (left : ℝ)) (Double.rank? right)
          rw [Double.compareInt_eq]
          cases Double.rank? right with
          | none => rfl
          | some rank =>
              change some (compare _ _).swap = some (compare _ _)
              rw [← cmp_eq_compare, cmp_swap, cmp_eq_compare]
  | double left =>
      cases second with
      | int right => exact Double.compareInt_eq left right
      | double right => exact Double.compare_eq left right

end SoundGrid.Number
