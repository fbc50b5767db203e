import SoundGrid.Proofs.Number.Packing

/-!
# Narrowing

A double becomes a single by rounding and cutting off.  Both keep the order, so
thresholds that are ordered as doubles are ordered as singles as well.  They
may become equal.
-/

namespace SoundGrid.Number

open Float.Model (Format UnpackedFloat)
open Float.Model.UnpackedFloat (Sign)

namespace Unpacked

variable {format : Format}

/-- A rank that is not negative and what a format rounds it to. -/
inductive RoundsMagnitude (format : Format) : EReal → EReal → Prop where
  | infinite : RoundsMagnitude format ⊤ ⊤
  | finite {number rounded : ℝ} (notNegative : 0 ≤ number)
      (rounding : IsRounding format number rounded) :
      RoundsMagnitude format number rounded

theorem RoundsMagnitude.mono {lower upper lowerRounded upperRounded : EReal}
    (lowerRounds : RoundsMagnitude format lower lowerRounded)
    (upperRounds : RoundsMagnitude format upper upperRounded)
    (ordered : lower ≤ upper) : lowerRounded ≤ upperRounded := by
  cases upperRounds with
  | infinite => exact le_top
  | finite _ upperRounding =>
      cases lowerRounds with
      | infinite => exact absurd ordered (not_le.mpr (EReal.coe_lt_top _))
      | finite _ lowerRounding =>
          have numbers := EReal.coe_le_coe_iff.mp ordered
          exact EReal.coe_le_coe_iff.mpr
            (lowerRounding.mono upperRounding numbers)

theorem RoundsMagnitude.notNegative {magnitude rounded : EReal}
    (rounds : RoundsMagnitude format magnitude rounded) : 0 ≤ magnitude := by
  cases rounds with
  | infinite => exact le_top
  | finite notNegative _ => exact EReal.coe_nonneg.mpr notNegative

/-- Zero is rounded to itself. -/
theorem roundsMagnitude_zero (format : Format) :
    RoundsMagnitude format 0 0 := by
  have isPlace : IsPlace format 0 format.minExponent :=
    ⟨le_refl _, by positivity, fun beyond => absurd beyond (lt_irrefl _)⟩
  have nearest : IsNearest (0 * 2 ^ (-format.minExponent)) 0 := by
    rw [zero_mul]
    exact_mod_cast isNearest_natCast 0
  exact .finite (le_refl (0 : ℝ))
    ⟨format.minExponent, 0, isPlace, nearest, by rw [Nat.cast_zero, zero_mul]⟩

/-- A rank and what a format rounds it to, before anything is cut off. -/
def RoundsTo (format : Format) (rank rounded : EReal) : Prop :=
  ∃ sign magnitude roundedMagnitude,
    RoundsMagnitude format magnitude roundedMagnitude ∧
    rank = signed sign magnitude ∧ rounded = signed sign roundedMagnitude

/-- Rounding keeps the order of ranks. -/
theorem RoundsTo.mono {lower upper lowerRounded upperRounded : EReal}
    (lowerRounds : RoundsTo format lower lowerRounded)
    (upperRounds : RoundsTo format upper upperRounded)
    (ordered : lower ≤ upper) : lowerRounded ≤ upperRounded := by
  rcases lowerRounds with ⟨lowerSign, low, lowRounded, lowRounds, rfl, rfl⟩
  rcases upperRounds with ⟨upperSign, up, upRounded, upRounds, rfl, rfl⟩
  have lowNotNegative := lowRounds.notNegative
  have upNotNegative := upRounds.notNegative
  have lowRoundedNotNegative :=
    (roundsMagnitude_zero format).mono lowRounds lowNotNegative
  have upRoundedNotNegative :=
    (roundsMagnitude_zero format).mono upRounds upNotNegative
  cases lowerSign with
  | positive =>
      cases upperSign with
      | positive => exact lowRounds.mono upRounds ordered
      | negative =>
          have upRefused : signed .negative up ≤ 0 :=
            EReal.neg_le_zero.mpr upNotNegative
          -- Only two zeros are ordered this way.
          have lowZero : low ≤ 0 := ordered.trans upRefused
          have upZero : up ≤ 0 :=
            EReal.neg_nonneg.mp (lowNotNegative.trans ordered)
          have lowRoundedZero :=
            lowRounds.mono (roundsMagnitude_zero format) lowZero
          have upRoundedZero :=
            upRounds.mono (roundsMagnitude_zero format) upZero
          exact lowRoundedZero.trans (EReal.neg_nonneg.mpr upRoundedZero)
  | negative =>
      cases upperSign with
      | positive =>
          exact (EReal.neg_le_zero.mpr lowRoundedNotNegative).trans
            upRoundedNotNegative
      | negative =>
          have magnitudes : up ≤ low := EReal.neg_le_neg_iff.mp ordered
          exact EReal.neg_le_neg_iff.mpr (upRounds.mono lowRounds magnitudes)

end Unpacked

/-! ## Singles -/

open Unpacked in
/-- A double that is no NaN becomes what its rank is rounded to, cut off. -/
theorem Single.exists_rank?_ofDouble {number : Float} {rank : EReal}
    (ranked : Double.rank? number = some rank) :
    ∃ rounded, RoundsTo .binary32 rank rounded ∧
      rank? (ofDouble number) = some (clip .binary32 rounded) := by
  have packed (result : UnpackedFloat)
      (canonical : IsCanonical .binary32 result) :
      rank? (.ofModel (.pack result)) =
        (Unpacked.rank? result).map (clip .binary32) :=
    rank?_unpack_pack (by decide) canonical
  rw [Double.rank?] at ranked
  rw [ofDouble]
  cases unpacked : number.toModel.unpack with
  | notANumber =>
      rw [unpacked] at ranked
      cases ranked
  | infinity sign =>
      rw [unpacked] at ranked
      cases ranked
      exact ⟨_, ⟨sign, ⊤, ⊤, .infinite, rfl, rfl⟩,
        packed (.infinity sign) trivial⟩
  | zero sign =>
      rw [unpacked] at ranked
      cases ranked
      exact ⟨_, ⟨.positive, 0, 0, roundsMagnitude_zero _, rfl, rfl⟩,
        packed (.zero sign) trivial⟩
  | finite sign mantissa exponent nonzero =>
      rw [unpacked] at ranked
      cases ranked
      rcases isRounding_round .binary32 sign exponent nonzero with
        ⟨rounded, rounding, canonical, roundedRank⟩
      have notNegative : (0 : ℝ) ≤ mantissa * 2 ^ exponent := by positivity
      refine ⟨_, ⟨sign, _, _, .finite notNegative rounding, rfl, rfl⟩, ?_⟩
      change rank?
        (.ofModel (.pack (.round .binary32 sign mantissa exponent))) = _
      rw [packed _ canonical, roundedRank]
      rfl

/-- Ordered doubles become ordered singles. -/
theorem Single.ofDouble_mono {lower upper : Float} (ordered : lower ≤ upper) :
    ∃ first second, rank? (ofDouble lower) = some first ∧
      rank? (ofDouble upper) = some second ∧
      first ≤ second := by
  rcases Double.le_iff.mp ordered with
    ⟨lowerRank, upperRank, lowerRanked, upperRanked, ranks⟩
  rcases Single.exists_rank?_ofDouble lowerRanked with
    ⟨lowerRounded, lowerRounds, first⟩
  rcases Single.exists_rank?_ofDouble upperRanked with
    ⟨upperRounded, upperRounds, second⟩
  exact ⟨_, _, first, second,
    Unpacked.clip_mono _ (lowerRounds.mono upperRounds ranks)⟩

end SoundGrid.Number
