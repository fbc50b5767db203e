import SoundGrid.Proofs.Number.Narrowing
import SoundGrid.Proofs.Number.Whole

/-!
# Widening

A single is widened into a double without loss: every place of the narrow
format is at least the place in the wide one, so nothing is rounded, and what is
not too large for the narrow format is not too large for the wide one.  Narrowed
again it is the number that it was.

A double that meets a single is narrowed first.  It then lies below the single
if it did so before, unless the two have become equal.
-/

namespace SoundGrid.Number

open Float.Model (Format UnpackedFloat)
open Float.Model.UnpackedFloat (Sign)

/-! ## Formats with more bits -/

/--
A format with more bits and a smaller least unit puts no number at a later
place.
-/
theorem IsPlace.le_of_wider {narrow wide : Format} {number : ℝ}
    {first second : ℤ} (bits : narrow.mantissaBits ≤ wide.mantissaBits)
    (least : wide.minExponent ≤ narrow.minExponent)
    (inNarrow : IsPlace narrow number first)
    (inWide : IsPlace wide number second) : second ≤ first := by
  by_contra beyond
  have later : first < second := not_le.mp beyond
  have full := inWide.full ((least.trans inNarrow.least).trans_lt later)
  have exponents :=
    (zpow_lt_zpow_iff_right₀ one_lt_two).mp (full.trans_lt inNarrow.below)
  omega

/-- A number that is a whole number of larger units is rounded to itself. -/
theorem IsRounding.eq_of_units {format : Format} {mantissa : ℕ}
    {exponent : ℤ} {rounded : ℝ}
    (rounding : IsRounding format (units mantissa exponent) rounded)
    (larger : ∀ place, IsPlace format (units mantissa exponent) place →
      place ≤ exponent) : rounded = units mantissa exponent := by
  rcases rounding with ⟨place, whole, isPlace, nearest, rfl⟩
  have shift : ((exponent - place).toNat : ℤ) = exponent - place :=
    Int.toNat_of_nonneg (Int.sub_nonneg_of_le (larger place isPlace))
  have count : units mantissa exponent * 2 ^ (-place) =
      ((mantissa * 2 ^ (exponent - place).toNat : ℕ) : ℝ) := by
    push_cast
    rw [units, mul_assoc, ← zpow_add₀ two_ne_zero, ← sub_eq_add_neg,
      ← zpow_natCast, shift]
  rw [count] at nearest
  have exact : whole = mantissa * 2 ^ (exponent - place).toNat :=
    le_antisymm (nearest.mono (isNearest_natCast _) (le_refl _))
      ((isNearest_natCast _).mono nearest (le_refl _))
  rw [exact, ← count, mul_assoc, ← zpow_add₀ two_ne_zero, neg_add_cancel,
    zpow_zero, mul_one]

namespace Unpacked

variable {format : Format}

/-- A rank of numbers that are written in a format. -/
inductive IsRank (format : Format) : EReal → Prop where
  | infinite (sign : Sign) : IsRank format (signed sign ⊤)
  | zero : IsRank format 0
  | finite (sign : Sign) {mantissa : ℕ} {exponent : ℤ} (nonzero : 0 < mantissa)
      (isPlace : IsPlace format (units mantissa exponent) exponent)
      (small : exponent < limit format) :
      IsRank format (signed sign (units mantissa exponent))

/-- What is read out of bits has such a rank. -/
theorem isRank_of_unpack (wide : 1 < format.exponentBits)
    {bits : BitVec format.numBits} {rank : EReal}
    (ranked : rank? (UnpackedFloat.unpack format bits) = some rank) :
    IsRank format rank := by
  have canonical := isCanonical_unpack format bits
  cases unpacked : UnpackedFloat.unpack format bits with
  | notANumber =>
      rw [unpacked] at ranked
      cases ranked
  | infinity sign =>
      rw [unpacked] at ranked
      cases ranked
      exact .infinite sign
  | zero sign =>
      rw [unpacked] at ranked
      cases ranked
      exact .zero
  | finite sign mantissa exponent nonzero =>
      rw [unpacked] at ranked canonical
      cases ranked
      exact .finite sign nonzero canonical (lt_limit_of_unpack wide unpacked)

/-- A rank of a format is rounded to itself. -/
theorem IsRank.roundsTo {rank : EReal} (isRank : IsRank format rank) :
    RoundsTo format rank rank := by
  cases isRank with
  | infinite sign => exact ⟨sign, ⊤, ⊤, .infinite, rfl, rfl⟩
  | zero => exact ⟨.positive, 0, 0, roundsMagnitude_zero format, rfl, rfl⟩
  | finite sign nonzero isPlace small =>
      exact ⟨sign, _, _, .finite (by positivity) (isRounding_units isPlace),
        rfl, rfl⟩

/-- Nothing of it is cut off. -/
theorem IsRank.clip_eq (wide : 1 < format.exponentBits) {rank : EReal}
    (isRank : IsRank format rank) : clip format rank = rank := by
  cases isRank with
  | infinite sign => rw [clip_signed sign le_top, if_pos le_top]
  | zero =>
      have kept : clip format (signed .positive 0) = _ :=
        clip_signed .positive (le_refl 0)
      rwa [if_neg (not_le.mpr (bound_pos format))] at kept
  | @finite sign mantissa exponent nonzero isPlace small =>
      have notLarge :
          ¬ bound format ≤ (units mantissa exponent : EReal) := fun large =>
        not_le.mpr small ((bound_le_iff wide isPlace).mp large)
      rw [clip_signed sign (magnitude_pos exponent nonzero).le, if_neg notLarge]

end Unpacked

/-! ## Singles as doubles -/

/-- Doubles are equal when they have the same rank. -/
theorem Double.beq_iff {first second : Float} :
    (first == second) = true ↔
      ∃ rank, rank? first = some rank ∧ rank? second = some rank := by
  change (first.toModel.compare second.toModel == some .eq) = true ↔ _
  rw [Double.compare_eq]
  cases rank? first with
  | none => simp
  | some lower =>
      cases rank? second with
      | none => simp
      | some upper => simpa using eq_comm

namespace Single

open Unpacked (IsRank signed)

theorem isRank_of_rank? {number : Float32} {rank : EReal}
    (ranked : rank? number = some rank) : IsRank .binary32 rank :=
  Unpacked.isRank_of_unpack (by decide) ranked

/-- A single has the rank of the double that it is widened into. -/
theorem rank?_toDouble (number : Float32) :
    Double.rank? (toDouble number) = rank? number := by
  have packed (result : UnpackedFloat)
      (canonical : Unpacked.IsCanonical .binary64 result) :
      Double.rank? (.ofModel (.pack result)) =
        (Unpacked.rank? result).map (Unpacked.clip .binary64) :=
    Unpacked.rank?_unpack_pack (by decide) canonical
  have canonical :=
    Unpacked.isCanonical_unpack .binary32 number.toModel.toBits.toBitVec
  change Unpacked.IsCanonical .binary32 number.toModel.unpack at canonical
  rw [toDouble, rank?]
  cases unpacked : number.toModel.unpack with
  | notANumber => exact packed .notANumber trivial
  | infinity sign =>
      refine (packed (.infinity sign) trivial).trans ?_
      exact congrArg some ((IsRank.infinite sign).clip_eq (by decide))
  | zero sign =>
      refine (packed (.zero sign) trivial).trans ?_
      exact congrArg some (IsRank.zero.clip_eq (by decide))
  | finite sign mantissa exponent nonzero =>
      rw [unpacked] at canonical
      have small : exponent < Unpacked.limit .binary32 :=
        Unpacked.lt_limit_of_unpack (by decide) unpacked
      rcases Unpacked.isRounding_round .binary64 sign exponent nonzero with
        ⟨rounded, rounding, wideCanonical, ranked⟩
      have exact := rounding.eq_of_units fun place isPlace =>
        IsPlace.le_of_wider (by decide) (by decide) canonical isPlace
      have below :
          (units mantissa exponent : EReal) < Unpacked.bound .binary64 := by
        have powers :
            (2 : ℝ) ^ ((Format.mantissaBits .binary32 : ℤ) + exponent) ≤
            1 * 2 ^ ((Format.mantissaBitsWithoutImplicit .binary64 : ℤ) +
              Unpacked.limit .binary64) := by
          rw [one_mul]
          refine zpow_le_zpow_right₀ one_le_two ?_
          have narrowBits :
              (Format.mantissaBits .binary32 : ℤ) = 24 := by decide
          have wideBits :
              (Format.mantissaBitsWithoutImplicit .binary64 : ℤ) = 52 := by
            decide
          have narrowLimit : Unpacked.limit .binary32 = 105 := by decide
          have wideLimit : Unpacked.limit .binary64 = 972 := by decide
          omega
        exact EReal.coe_lt_coe_iff.mpr (canonical.below.trans_le powers)
      refine (packed _ wideCanonical).trans ?_
      rw [ranked, exact, Option.map_some,
        Unpacked.clip_signed sign (Unpacked.magnitude_pos exponent nonzero).le,
        if_neg (not_le.mpr below)]
      rfl

/-- A NaN is narrowed into a NaN. -/
theorem rank?_ofDouble_eq_none {number : Float}
    (undefined : Double.rank? number = none) :
    rank? (ofDouble number) = none := by
  rw [Double.rank?] at undefined
  rw [ofDouble]
  cases unpacked : number.toModel.unpack with
  | notANumber =>
      have canonical : Unpacked.IsCanonical .binary32 .notANumber := trivial
      exact Unpacked.rank?_unpack_pack (by decide) canonical
  | infinity | zero | finite =>
      rw [unpacked] at undefined
      cases undefined

/-- Widened and narrowed again a single has its rank still. -/
theorem rank?_ofDouble_toDouble (number : Float32) :
    rank? (ofDouble (toDouble number)) = rank? number := by
  cases ranked : rank? number with
  | none => exact rank?_ofDouble_eq_none ((rank?_toDouble number).trans ranked)
  | some rank =>
      have isRank := isRank_of_rank? ranked
      rcases exists_rank?_ofDouble ((rank?_toDouble number).trans ranked) with
        ⟨rounded, rounds, narrowed⟩
      have same : rounded = rank :=
        le_antisymm (rounds.mono isRank.roundsTo (le_refl _))
          (isRank.roundsTo.mono rounds (le_refl _))
      rw [narrowed, same, isRank.clip_eq (by decide)]

/-- Singles are compared as the doubles that they are widened into. -/
theorem compare_toDouble (first second : Float32) :
    (toDouble first).toModel.compare (toDouble second).toModel =
      first.toModel.compare second.toModel := by
  rw [Double.compare_eq, Single.compare_eq, rank?_toDouble, rank?_toDouble]

/-- A double that is at most a single is so when it is narrowed. -/
theorem toDouble_ofDouble_le {threshold : Float} {number : Float32}
    (below : threshold ≤ toDouble number) :
    toDouble (ofDouble threshold) ≤ toDouble number := by
  rcases ofDouble_mono below with
    ⟨lower, upper, lowerRanked, upperRanked, ordered⟩
  rw [rank?_ofDouble_toDouble, ← rank?_toDouble] at upperRanked
  rw [← rank?_toDouble] at lowerRanked
  exact Double.le_iff.mpr ⟨lower, upper, lowerRanked, upperRanked, ordered⟩

/-- A double that is at least a single is so when it is narrowed. -/
theorem le_toDouble_ofDouble {threshold : Float} {number : Float32}
    (above : toDouble number ≤ threshold) :
    toDouble number ≤ toDouble (ofDouble threshold) := by
  rcases ofDouble_mono above with
    ⟨lower, upper, lowerRanked, upperRanked, ordered⟩
  rw [rank?_ofDouble_toDouble, ← rank?_toDouble] at lowerRanked
  rw [← rank?_toDouble] at upperRanked
  exact Double.le_iff.mpr ⟨lower, upper, lowerRanked, upperRanked, ordered⟩

/--
A narrowed double is below a single when it was so before and is not equal to it
now.
-/
theorem toDouble_ofDouble_lt_iff {threshold : Float} {number : Float32} :
    toDouble (ofDouble threshold) < toDouble number ↔
      threshold < toDouble number ∧
      (toDouble number == toDouble (ofDouble threshold)) = false := by
  constructor
  · intro below
    rcases Double.lt_iff.mp below with
      ⟨narrowed, rank, narrowedRanked, ranked, ordered⟩
    constructor
    · cases thresholdRanked : Double.rank? threshold with
      | none =>
          rw [rank?_toDouble,
            rank?_ofDouble_eq_none thresholdRanked] at narrowedRanked
          cases narrowedRanked
      | some lower =>
          refine Double.lt_iff.mpr ⟨lower, rank, thresholdRanked, ranked,
            not_le.mp fun above => ?_⟩
          have notBelow := le_toDouble_ofDouble
            (Double.le_iff.mpr ⟨rank, lower, ranked, thresholdRanked, above⟩)
          exact Double.not_lt_of_le notBelow below
    · rw [Bool.eq_false_iff, ne_eq, Double.beq_iff]
      rintro ⟨same, rankedSame, narrowedSame⟩
      rw [ranked] at rankedSame
      rw [narrowedRanked] at narrowedSame
      exact ordered.ne' (Option.some.inj (rankedSame.trans narrowedSame.symm))
  · rintro ⟨below, different⟩
    rcases Double.le_iff.mp (toDouble_ofDouble_le (Double.le_of_lt below)) with
      ⟨narrowed, rank, narrowedRanked, ranked, ordered⟩
    rw [Bool.eq_false_iff, ne_eq, Double.beq_iff] at different
    refine Double.lt_iff.mpr ⟨narrowed, rank, narrowedRanked, ranked,
      ordered.lt_of_ne ?_⟩
    rintro rfl
    exact different ⟨narrowed, ranked, narrowedRanked⟩

end Single

end SoundGrid.Number
