import SoundGrid.Proofs.Fault
import SoundGrid.Proofs.Number.Root
import SoundGrid.Proofs.Number.Sum

/-!
# Magnitudes

Doubles that are not negative stay so in sums, quotients and roots, and none of
these is a NaN. Where a result is too large it is infinite, and an infinity does
no harm to the operations that follow as long as it is not divided by another
one.

Neither the magnitude of a double nor its square tells the sign that it had, and
products with a factor that is not negative keep the order.
-/

namespace SoundGrid.Number

open Float.Model (Format UnpackedFloat)
open Float.Model.UnpackedFloat (Sign pack unpack)

/-! ## Signs -/

namespace Unpacked

variable {format : Format} {number : UnpackedFloat}

/-- A canonical number that is not too large, so that bits keep it. -/
def Fits (format : Format) : UnpackedFloat → Prop
  | .finite _ mantissa exponent _ =>
      IsPlace format (units mantissa exponent) exponent ∧
        exponent < limit format
  | _ => True

theorem fits_unpack (wide : 1 < format.exponentBits)
    (bits : BitVec format.numBits) : Fits format (unpack format bits) := by
  have canonical := isCanonical_unpack format bits
  cases unpacked : unpack format bits with
  | notANumber | infinity | zero => trivial
  | finite sign mantissa exponent nonzero =>
      rw [unpacked] at canonical
      exact ⟨canonical, lt_limit_of_unpack wide unpacked⟩

theorem Fits.unpack_pack (fits : Fits format number) :
    unpack format (pack format number) = number := by
  cases number with
  | notANumber => rw [pack, UnpackedFloat.unpack_packedNaN]
  | infinity sign => rw [pack, unpack_packedInfinity]
  | zero sign => rw [pack, UnpackedFloat.unpack_packedZero]
  | finite sign mantissa exponent nonzero =>
      exact unpack_pack_finite sign nonzero fits.1 fits.2

/-- The sign takes up no room. -/
theorem Fits.neg (fits : Fits format number) : Fits format number.neg := by
  cases number <;> exact fits

theorem Fits.abs (fits : Fits format number) : Fits format number.abs := by
  cases number <;> exact fits

theorem abs_neg (number : UnpackedFloat) : number.neg.abs = number.abs := by
  cases number <;> rfl

/-- Two signs that are turned make the same sign. -/
theorem mul_neg_neg (format : Format) (number : UnpackedFloat) :
    UnpackedFloat.mul format number.neg number.neg =
      UnpackedFloat.mul format number number := by
  cases number with
  | notANumber => rfl
  | infinity sign | zero sign | finite sign => cases sign <;> rfl

theorem rank?_abs {real : ℝ} (ranked : rank? number = some (real : EReal)) :
    rank? number.abs = some ((|real| : ℝ) : EReal) := by
  rcases real_cases ranked with
    ⟨sign, rfl, rfl⟩ | ⟨sign, mantissa, exponent, nonzero, rfl, rfl⟩
  · rw [abs_zero]
    rfl
  · rw [abs_withSign, abs_of_nonneg (by positivity)]
    rfl

/-- The sum of an infinity and a number that is not negative. -/
theorem add_infinity (format : Format) {rank : EReal}
    (ranked : rank? number = some rank) (notNegative : 0 ≤ rank) :
    UnpackedFloat.add format (.infinity .positive) number =
        .infinity .positive ∧
      UnpackedFloat.add format number (.infinity .positive) =
        .infinity .positive := by
  cases number with
  | notANumber => cases ranked
  | infinity sign =>
      cases sign with
      | positive => exact ⟨rfl, rfl⟩
      | negative =>
          cases ranked
          exact absurd notNegative (not_le.mpr EReal.bot_lt_zero)
  | zero | finite => exact ⟨rfl, rfl⟩

theorem exists_div_infinity (format : Format) {real : ℝ}
    (ranked : rank? number = some (real : EReal)) :
    ∃ sign, UnpackedFloat.div format number (.infinity .positive) =
      .zero sign := by
  rcases real_cases ranked with ⟨sign, rfl, -⟩ | ⟨sign, _, _, _, rfl, -⟩
  · exact ⟨_, rfl⟩
  · exact ⟨_, rfl⟩

theorem infinity_div (format : Format) {real : ℝ}
    (ranked : rank? number = some (real : EReal)) (positive : 0 < real) :
    UnpackedFloat.div format (.infinity .positive) number =
      .infinity .positive := by
  rcases real_cases ranked with
    ⟨sign, rfl, rfl⟩ | ⟨sign, mantissa, exponent, nonzero, rfl, rfl⟩
  · exact absurd positive (lt_irrefl 0)
  · have magnitude : (0 : ℝ) < units mantissa exponent := by positivity
    cases sign with
    | positive => rfl
    | negative =>
        exact absurd positive (not_lt.mpr (neg_nonpos.mpr magnitude.le))

end Unpacked

namespace Double

theorem fits (number : Float) : Unpacked.Fits .binary64 number.toModel.unpack :=
  Unpacked.fits_unpack (by decide) _

theorem unpack_neg (number : Float) :
    (-number).toModel.unpack = number.toModel.unpack.neg :=
  (fits number).neg.unpack_pack

theorem unpack_abs (number : Float) :
    number.abs.toModel.unpack = number.toModel.unpack.abs :=
  (fits number).abs.unpack_pack

/-- A magnitude does not tell the sign. -/
theorem abs_neg (number : Float) : (-number).abs = number.abs := by
  change Float.ofModel (.pack (-number).toModel.unpack.abs) =
    .ofModel (.pack number.toModel.unpack.abs)
  rw [unpack_neg, Unpacked.abs_neg]

/-- Nor does a square. -/
theorem neg_mul_neg (number : Float) : -number * -number = number * number := by
  change
    Float.ofModel (.pack (.mul .binary64 (-number).toModel.unpack
      (-number).toModel.unpack)) =
    .ofModel (.pack (.mul .binary64 number.toModel.unpack
      number.toModel.unpack))
  rw [unpack_neg, Unpacked.mul_neg_neg]

theorem rank?_abs {number : Float} {real : ℝ}
    (ranked : rank? number = some (real : EReal)) :
    rank? number.abs = some ((|real| : ℝ) : EReal) := by
  rw [rank?, unpack_abs]
  exact Unpacked.rank?_abs ranked

/-! ## Doubles that are not negative -/

variable {first second number : Float}

/--
What is said of the ranks of zero and a double is said of the rank of the
double.
-/
theorem exists_rank?_zero_iff {holds : EReal → EReal → Prop} :
    (∃ lower upper, rank? 0.0 = some lower ∧ rank? number = some upper ∧
      holds lower upper) ↔ ∃ rank, rank? number = some rank ∧ holds 0 rank := by
  have zero := rank?_zero
  rw [Int.cast_zero] at zero
  constructor
  · rintro ⟨lower, rank, zeroRanked, ranked, said⟩
    rw [zero] at zeroRanked
    cases zeroRanked
    exact ⟨rank, ranked, said⟩
  · rintro ⟨rank, ranked, said⟩
    exact ⟨_, rank, zero, ranked, said⟩

theorem zero_le_iff :
    0.0 ≤ number ↔ ∃ rank, rank? number = some rank ∧ 0 ≤ rank :=
  le_iff.trans exists_rank?_zero_iff

theorem zero_lt_iff :
    0.0 < number ↔ ∃ rank, rank? number = some rank ∧ 0 < rank :=
  lt_iff.trans exists_rank?_zero_iff

/-- Only the infinity has no real rank. -/
theorem unpack_of_rank?_eq_top (ranked : rank? number = some ⊤) :
    number.toModel.unpack = .infinity .positive := by
  rw [rank?] at ranked
  cases unpacked : number.toModel.unpack with
  | notANumber =>
      rw [unpacked] at ranked
      cases ranked
  | infinity sign =>
      cases sign with
      | positive => rfl
      | negative =>
          rw [unpacked] at ranked
          exact absurd (Option.some.inj ranked) bot_ne_top
  | zero sign =>
      rw [unpacked] at ranked
      exact absurd (Option.some.inj ranked) EReal.zero_ne_top
  | finite sign mantissa exponent nonzero =>
      rw [unpacked] at ranked
      rw [Unpacked.rank?, Unpacked.signed_coe] at ranked
      exact absurd (Option.some.inj ranked) (EReal.coe_ne_top _)

theorem cases_of_zero_le (notNegative : 0.0 ≤ number) :
    (∃ real : ℝ, rank? number = some (real : EReal) ∧ 0 ≤ real) ∨
      number.toModel.unpack = .infinity .positive := by
  rcases zero_le_iff.mp notNegative with ⟨rank, ranked, atLeast⟩
  induction rank with
  | bot => exact absurd atLeast (not_le.mpr EReal.bot_lt_zero)
  | coe real => exact Or.inl ⟨real, ranked, EReal.coe_nonneg.mp atLeast⟩
  | top => exact Or.inr (unpack_of_rank?_eq_top ranked)

theorem exists_rank?_of_zero_le (notNegative : 0.0 ≤ number)
    (finite : number.isFinite = true) :
    ∃ real : ℝ, rank? number = some (real : EReal) ∧ 0 ≤ real := by
  rcases cases_of_zero_le notNegative with real | infinite
  · exact real
  · change number.toModel.unpack.isFinite = true at finite
    rw [infinite] at finite
    cases finite

theorem cases_of_zero_lt (positive : 0.0 < number) :
    (∃ real : ℝ, rank? number = some (real : EReal) ∧ 0 < real) ∨
      number.toModel.unpack = .infinity .positive := by
  rcases zero_lt_iff.mp positive with ⟨rank, ranked, above⟩
  induction rank with
  | bot => exact absurd above (not_lt.mpr bot_le)
  | coe real => exact Or.inl ⟨real, ranked, EReal.coe_pos.mp above⟩
  | top => exact Or.inr (unpack_of_rank?_eq_top ranked)

/-- What is no NaN and not above one is at most one. -/
theorem le_one_of_not_lt (notNegative : 0.0 ≤ number)
    (notAbove : ¬ 1.0 < number) : number ≤ 1.0 := by
  rcases zero_le_iff.mp notNegative with ⟨rank, ranked, -⟩
  rw [lt_iff] at notAbove
  refine le_iff.mpr ⟨rank, _, ranked, rank?_one, not_lt.mp fun above => ?_⟩
  exact notAbove ⟨_, rank, rank?_one, ranked, above⟩

/-- Nothing that is not negative is cut off to something negative. -/
theorem zero_le_clip {rank : EReal} (notNegative : 0 ≤ rank) :
    0 ≤ Unpacked.clip .binary64 rank := by
  have kept : Unpacked.clip .binary64 0 = 0 :=
    Unpacked.IsRank.zero.clip_eq (by decide)
  rw [← kept]
  exact Unpacked.clip_mono _ notNegative

/-- What a number that is not negative is rounded to is not negative. -/
theorem zero_le_of_roundsTo {real : ℝ} {rounded : EReal}
    (notNegative : 0 ≤ real)
    (rounds : Unpacked.RoundsTo .binary64 (real : EReal) rounded)
    (ranked : rank? number = some (Unpacked.clip .binary64 rounded)) :
    0.0 ≤ number :=
  zero_le_iff.mpr ⟨_, ranked,
    zero_le_clip ((Unpacked.roundsTo_zero .binary64).mono rounds
      (EReal.coe_le_coe_iff.mpr notNegative))⟩

/-- An operation on an infinity that is not rounded. -/
theorem zero_le_ofModel_pack (result : UnpackedFloat) {rank : EReal}
    (canonical : Unpacked.IsCanonical .binary64 result)
    (ranked : Unpacked.rank? result = some rank) (notNegative : 0 ≤ rank) :
    0.0 ≤ Float.ofModel (.pack result) :=
  zero_le_iff.mpr ⟨_, (rank?_ofModel_pack result canonical).trans
    (congrArg (Option.map (Unpacked.clip .binary64)) ranked),
      zero_le_clip notNegative⟩

/-! ## Operations -/

theorem zero_le_add (one : 0.0 ≤ first)
    (other : 0.0 ≤ second) : 0.0 ≤ first + second := by
  rcases zero_le_iff.mp one with ⟨rank, ranked, notNegative⟩
  rcases zero_le_iff.mp other with ⟨otherRank, otherRanked, otherNotNegative⟩
  have infinity : 0.0 ≤ Float.ofModel (.pack (.infinity .positive)) :=
    zero_le_ofModel_pack (.infinity .positive) trivial rfl le_top
  rcases cases_of_zero_le one with
    ⟨x, firstRanked, xNotNegative⟩ | firstInfinite
  · rcases cases_of_zero_le other with
      ⟨y, secondRanked, yNotNegative⟩ | secondInfinite
    · rcases exists_rank?_add firstRanked secondRanked with
        ⟨rounded, rounds, sumRanked⟩
      exact zero_le_of_roundsTo (add_nonneg xNotNegative yNotNegative) rounds
        sumRanked
    · change 0.0 ≤ Float.ofModel
        (.pack (.add .binary64 first.toModel.unpack second.toModel.unpack))
      rwa [secondInfinite,
        (Unpacked.add_infinity .binary64 ranked notNegative).2]
  · change 0.0 ≤ Float.ofModel
      (.pack (.add .binary64 first.toModel.unpack second.toModel.unpack))
    rwa [firstInfinite,
      (Unpacked.add_infinity .binary64 otherRanked otherNotNegative).1]

theorem zero_le_mul {x y : ℝ} (firstRanked : rank? first = some (x : EReal))
    (secondRanked : rank? second = some (y : EReal)) (notNegative : 0 ≤ x * y) :
    0.0 ≤ first * second := by
  rcases exists_rank?_mul firstRanked secondRanked with
    ⟨rounded, rounds, ranked⟩
  exact zero_le_of_roundsTo notNegative rounds ranked

/-- Factors that are not negative keep the order. -/
theorem mul_le_mul {x y factor : ℝ} {multiplier : Float}
    (firstRanked : rank? first = some (x : EReal))
    (secondRanked : rank? second = some (y : EReal))
    (factorRanked : rank? multiplier = some (factor : EReal))
    (notNegative : 0 ≤ factor) (ordered : first ≤ second) :
    first * multiplier ≤ second * multiplier := by
  have reals : x ≤ y := by
    rcases le_iff.mp ordered with
      ⟨lower, upper, lowerRanked, upperRanked, ranks⟩
    rw [firstRanked] at lowerRanked
    rw [secondRanked] at upperRanked
    cases lowerRanked
    cases upperRanked
    exact EReal.coe_le_coe_iff.mp ranks
  rcases exists_rank?_mul firstRanked factorRanked with
    ⟨lower, lowerRounds, lowerRanked⟩
  rcases exists_rank?_mul secondRanked factorRanked with
    ⟨upper, upperRounds, upperRanked⟩
  have products :=
    EReal.coe_le_coe_iff.mpr (mul_le_mul_of_nonneg_right reals notNegative)
  exact le_iff.mpr ⟨_, _, lowerRanked, upperRanked,
    Unpacked.clip_mono _ (lowerRounds.mono upperRounds products)⟩

/-- A quotient is no NaN unless both numbers are infinite. -/
theorem zero_le_div (notNegative : 0.0 ≤ first) (positive : 0.0 < second)
    (finite : first.isFinite = true ∨ second.isFinite = true) :
    0.0 ≤ first / second := by
  have quotient : first / second =
      .ofModel (.pack (.div .binary64 first.toModel.unpack
        second.toModel.unpack)) := rfl
  rcases cases_of_zero_le notNegative with
    ⟨x, firstRanked, xNotNegative⟩ | firstInfinite
  · rcases cases_of_zero_lt positive with
      ⟨y, secondRanked, yPositive⟩ | secondInfinite
    · rcases exists_rank?_div firstRanked secondRanked yPositive.ne' with
        ⟨rounded, rounds, ranked⟩
      exact zero_le_of_roundsTo (div_nonneg xNotNegative yPositive.le)
        rounds ranked
    · rcases Unpacked.exists_div_infinity .binary64 firstRanked with
        ⟨sign, vanished⟩
      rw [quotient, secondInfinite, vanished]
      exact zero_le_ofModel_pack (.zero sign) trivial rfl (le_refl 0)
  · rcases cases_of_zero_lt positive with
      ⟨y, secondRanked, yPositive⟩ | secondInfinite
    · rw [quotient, firstInfinite,
        Unpacked.infinity_div .binary64 secondRanked yPositive]
      exact zero_le_ofModel_pack (.infinity .positive) trivial rfl le_top
    · rcases finite with firstFinite | secondFinite
      · change first.toModel.unpack.isFinite = true at firstFinite
        rw [firstInfinite] at firstFinite
        cases firstFinite
      · change second.toModel.unpack.isFinite = true at secondFinite
        rw [secondInfinite] at secondFinite
        cases secondFinite

theorem zero_le_sqrt (notNegative : 0.0 ≤ number) : 0.0 ≤ number.sqrt := by
  rcases cases_of_zero_le notNegative with ⟨real, ranked, atLeast⟩ | infinite
  · rcases exists_rank?_sqrt ranked atLeast with ⟨rounded, rounds, rootRanked⟩
    exact zero_le_of_roundsTo (Real.sqrt_nonneg real) rounds rootRanked
  · change 0.0 ≤ Float.ofModel (.pack (.sqrt .binary64 number.toModel.unpack))
    rw [infinite]
    exact zero_le_ofModel_pack (.infinity .positive) trivial rfl le_top

/-- A double that is above zero is not equal to it. -/
theorem beq_zero_of_zero_lt (positive : 0.0 < number) :
    (number == 0.0) = false := by
  rcases lt_iff.mp positive with ⟨zero, rank, zeroRanked, ranked, below⟩
  rw [Bool.eq_false_iff, ne_eq, beq_iff]
  rintro ⟨same, sameRanked, zeroAgain⟩
  rw [ranked] at sameRanked
  rw [zeroRanked] at zeroAgain
  exact below.ne (Option.some.inj (zeroAgain.trans sameRanked.symm))

/-- Counts are above zero, and finite. -/
theorem exists_rank?_ofNat {natural : ℕ} (positive : 0 < natural) {exponent : ℕ}
    (small : exponent < integerBits) (few : natural ≤ 2 ^ exponent) :
    ∃ real : ℝ, rank? (ofNat natural) = some (real : EReal) ∧ 0 < real := by
  rcases exists_rank?_ofInt natural with ⟨rounded, rounds, ranked⟩
  have bounded : |((natural : ℤ) : ℝ)| ≤ 2 ^ exponent := by
    rw [Int.cast_natCast, abs_of_nonneg (Nat.cast_nonneg _)]
    exact_mod_cast few
  have one : (2 : ℝ) ^ 0 ≤ ((natural : ℤ) : ℝ) := by
    rw [pow_zero]
    exact_mod_cast positive
  have atLeast := rounds.two_pow_le (by decide) one
  rcases rounds.exists_real small bounded with ⟨real, rfl, -, kept⟩
  refine ⟨real, ranked.trans (congrArg some kept), ?_⟩
  rw [pow_zero] at atLeast
  exact zero_lt_one.trans_le (EReal.coe_le_coe_iff.mp atLeast)

end Double

/-! ## Numbers that are magnitudes -/

section Numbers

variable {first second number : Number} {double : Float}

theorem isBelow_iff : first.isBelow second = true ↔
    ∃ lower upper, first.rank? = some lower ∧ second.rank? = some upper ∧
      lower < upper := by
  rw [isBelow, compare?_eq]
  cases first.rank? with
  | none => simp
  | some lower =>
      cases second.rank? with
      | none => simp
      | some upper => simp [compare_lt_iff_lt]

theorem isAtMost_iff : first.isAtMost second = true ↔
    ∃ lower upper, first.rank? = some lower ∧ second.rank? = some upper ∧
      lower ≤ upper := by
  rw [isAtMost, compare?_eq]
  cases first.rank? with
  | none => simp
  | some lower =>
      cases second.rank? with
      | none => simp
      | some upper => simp [← compare_le_iff_le, Ordering.isLE_iff_ne_gt]

/-- At most means below or equal. -/
theorem isAtMost_eq (first second : Number) :
    first.isAtMost second = (first.isBelow second || first.same second) := by
  rw [isAtMost, isBelow, Number.same]
  rcases first.compare? second with _ | _ | _ | _ <;> rfl

/-- The nearest double to an integer, where there is one. -/
theorem Double.eq_ofInt_of_ofInt? {integer : ℤ}
    (found : ofInt? integer = some double) : double = ofInt integer := by
  rw [ofInt?] at found
  split at found
  · dsimp only at found
    split at found
    · exact (Option.some.inj found).symm
    · cases found
  · cases found

/-- A number with a finite double for it, and not negative. -/
structure IsMagnitude (number : Number) (double : Float) : Prop where
  notNegative : Number.isAtMost (.int 0) number = true
  converted : number.toDouble = .ok double
  finite : double.isFinite = true

/-- The double is not negative either. -/
theorem IsMagnitude.zero_le
    (magnitude : number.IsMagnitude double) : 0.0 ≤ double := by
  rcases isAtMost_iff.mp magnitude.notNegative with
    ⟨zero, rank, ⟨⟩, ranked, notNegative⟩
  rw [Int.cast_zero] at notNegative
  have converted := magnitude.converted
  cases number with
  | int value =>
      cases ranked
      have nearest : double = Double.ofInt value := by
        rw [toDouble, doubleOfInt] at converted
        cases found : Double.ofInt? value with
        | none =>
            rw [found] at converted
            cases converted
        | some nearest =>
            rw [found] at converted
            cases converted
            exact Double.eq_ofInt_of_ofInt? found
      rcases Double.exists_rank?_ofInt value with ⟨rounded, rounds, ranked⟩
      rw [nearest]
      exact Double.zero_le_of_roundsTo (EReal.coe_nonneg.mp notNegative)
        rounds ranked
  | double value =>
      cases converted
      exact Double.zero_le_iff.mpr ⟨rank, ranked, notNegative⟩

theorem IsMagnitude.exists_rank? (magnitude : number.IsMagnitude double) :
    ∃ real : ℝ, number.rank? = some (real : EReal) ∧ 0 ≤ real := by
  rcases isAtMost_iff.mp magnitude.notNegative with
    ⟨zero, rank, ⟨⟩, ranked, notNegative⟩
  rw [Int.cast_zero] at notNegative
  cases number with
  | int value =>
      cases ranked
      exact ⟨value, rfl, EReal.coe_nonneg.mp notNegative⟩
  | double value =>
      cases magnitude.converted
      exact Double.exists_rank?_of_zero_le magnitude.zero_le magnitude.finite

/-- A quotient by a double that is not zero is one of doubles. -/
theorem IsMagnitude.div_eq (magnitude : number.IsMagnitude double)
    {divisor : Float} (nonzero : (divisor == 0.0) = false) :
    number.div (.double divisor) = .ok (double / divisor) := by
  have aligned :
      number.align (.double divisor) = .ok (.doubles double divisor) := by
    have converted := magnitude.converted
    cases number with
    | int value => exact bind_eq_ok_iff.mpr ⟨double, converted, rfl⟩
    | double value =>
        cases converted
        rfl
  refine bind_eq_ok_iff.mpr ⟨_, aligned, ?_⟩
  change (if (divisor == 0.0) = true then _ else _) = _
  rw [nonzero]
  rfl

end Numbers

/-! ## Singles in the unit interval -/

namespace Single

/-- A single in the unit interval, so no NaN. -/
structure InUnit (value : Float32) : Prop where
  zero_le : 0.0 ≤ toDouble value
  le_one : toDouble value ≤ 1.0

/-- Narrowing keeps the order. -/
theorem toDouble_ofDouble_mono {lower upper : Float} (ordered : lower ≤ upper) :
    toDouble (ofDouble lower) ≤ toDouble (ofDouble upper) := by
  rcases ofDouble_mono ordered with
    ⟨first, second, firstRanked, secondRanked, ranks⟩
  rw [← rank?_toDouble] at firstRanked secondRanked
  exact Double.le_iff.mpr ⟨first, second, firstRanked, secondRanked, ranks⟩

theorem inUnit_ofDouble {value : Float} (notNegative : 0.0 ≤ value)
    (atMost : value ≤ 1.0) : InUnit (ofDouble value) where
  zero_le := by
    have zero : toDouble (ofDouble 0.0) = 0.0 := by decide +kernel
    rw [← zero]
    exact toDouble_ofDouble_mono notNegative
  le_one := by
    have one : toDouble (ofDouble 1.0) = 1.0 := by decide +kernel
    rw [← one]
    exact toDouble_ofDouble_mono atMost

end Single

end SoundGrid.Number
