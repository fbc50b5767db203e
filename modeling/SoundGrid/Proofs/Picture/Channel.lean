import SoundGrid.Picture
import SoundGrid.Proofs.Number.Accuracy

/-!
# The bytes of channels

A channel becomes a byte: it is cut off at 0 and 255 and loses its fraction.
Channels are singles. A double that is made a single first may be moved, but not
past a whole number that a byte can hold, so whole numbers become the bytes that
they are cut off to.
-/

namespace SoundGrid.Picture

open Float.Model.UnpackedFloat (Sign roundToInt)
open Float.Model (Format)
open Number (Double.le_iff Double.rank? Single.rank?)
open Number.Unpacked (RoundsTo bound clip clip_signed decreaseExponent_eq limit
  represents_exact signed)

/-! ## Cutting off -/

/-- A rank that is cut off at 0 and 255, without its fraction. -/
noncomputable def cutOff (rank : EReal) : ℕ :=
  ⌊(max 0 (min rank ((255 : ℝ) : EReal))).toReal⌋₊

theorem cutOff_mono : Monotone cutOff := by
  intro lower upper ordered
  have below := max_le_max_left 0 (min_le_min_right ((255 : ℝ) : EReal) ordered)
  refine Nat.floor_mono (EReal.toReal_le_toReal below ?_ ?_)
  · exact (EReal.bot_lt_zero.trans_le (le_max_left _ _)).ne'
  · exact (max_lt EReal.zero_lt_top
      ((min_le_right _ _).trans_lt (EReal.coe_lt_top _))).ne

theorem cutOff_coe (real : ℝ) : cutOff real = ⌊max 0 (min real 255)⌋₊ := by
  have monotone : Monotone ((↑) : ℝ → EReal) := EReal.coe_strictMono.monotone
  rw [cutOff, ← monotone.map_min, ← EReal.coe_zero, ← monotone.map_max,
    EReal.toReal_coe]

theorem cutOff_of_notPositive {rank : EReal}
    (notPositive : rank ≤ 0) : cutOff rank = 0 := by
  rw [cutOff, max_eq_left ((min_le_left _ _).trans notPositive),
    EReal.toReal_zero, Nat.floor_zero]

theorem cutOff_natCast (natural : ℕ) :
    cutOff ((natural : ℝ) : EReal) = min natural 255 := by
  have cast : min (natural : ℝ) 255 = ((min natural 255 : ℕ) : ℝ) := by
    push_cast; rfl
  rw [cutOff_coe, cast, max_eq_right (Nat.cast_nonneg _), Nat.floor_natCast]

/-! ## Bytes -/

/-- A number that is rounded to an integer loses its fraction. -/
theorem roundToInt_eq (sign : Sign) (mantissa : ℕ) (exponent : ℤ) :
    roundToInt sign mantissa exponent =
      sign.apply ⌊(mantissa * 2 ^ exponent : ℝ)⌋₊ := by
  rcases decreaseExponent_eq mantissa exponent 0 with ⟨same, shorter⟩
  have unfolded : roundToInt sign mantissa exponent =
      let decreased :=
        Float.Model.UnpackedFloat.decreaseExponent mantissa exponent 0
      sign.apply
        (Float.Model.UnpackedFloat.shiftToExponent decreased.1 decreased.2
          .exact 0).1.mantissa := rfl
  rw [unfolded, ← same]
  generalize Float.Model.UnpackedFloat.decreaseExponent mantissa exponent 0 =
    decreased at shorter ⊢
  have bounds :=
    ((represents_exact decreased.1).shiftToExponent shorter).1.bounds
  rw [neg_zero, zpow_zero, mul_one] at bounds
  have floor := (Nat.floor_eq_iff (by positivity)).mpr bounds
  rw [floor]

theorem toNat_ofNatClamp (natural : ℕ) :
    (UInt8.ofNatClamp natural).toNat = min natural 255 := by
  rcases Nat.lt_or_ge natural UInt8.size with small | large
  · rw [UInt8.toNat_ofNatClamp_of_lt small]
    exact (min_eq_left (Nat.le_of_lt_succ small)).symm
  · rw [UInt8.toNat_ofNatClamp_of_le large]
    exact (min_eq_right (by omega)).symm

/-- A channel that is no NaN becomes the byte that it is cut off to. -/
theorem toNat_byteOf {channel : Float32} {rank : EReal}
    (ranked : Single.rank? channel = some rank) :
    (byteOf channel).toNat = cutOff rank := by
  rw [Single.rank?] at ranked
  change channel.toModel.unpack.toUInt8.toNat = _
  cases unpacked : channel.toModel.unpack with
  | notANumber =>
      rw [unpacked] at ranked
      cases ranked
  | infinity sign =>
      rw [unpacked] at ranked
      cases ranked
      cases sign with
      | positive =>
          rw [signed, cutOff, min_eq_right le_top,
            max_eq_right (EReal.coe_nonneg.mpr (by norm_num)), EReal.toReal_coe]
          exact (Nat.floor_ofNat 255).symm
      | negative =>
          exact (cutOff_of_notPositive (EReal.neg_le_zero.mpr le_top)).symm
  | zero sign =>
      rw [unpacked] at ranked
      cases ranked
      exact (cutOff_of_notPositive (le_refl 0)).symm
  | finite sign mantissa exponent nonzero =>
      rw [unpacked] at ranked
      cases ranked
      have notNegative : (0 : ℝ) ≤ mantissa * 2 ^ exponent := by positivity
      change (UInt8.ofNatClamp
        (roundToInt sign mantissa exponent).toNat).toNat = _
      rw [toNat_ofNatClamp, roundToInt_eq]
      cases sign with
      | positive =>
          have floor : ⌊min (mantissa * 2 ^ exponent : ℝ) 255⌋₊ =
              min ⌊(mantissa * 2 ^ exponent : ℝ)⌋₊ 255 := by
            rw [Nat.floor_mono.map_min, Nat.floor_ofNat]
          rw [signed, cutOff_coe,
            max_eq_right (le_min notNegative (by norm_num)), floor]
          rfl
      | negative =>
          have notPositive :=
            EReal.neg_le_zero.mpr (EReal.coe_nonneg.mpr notNegative)
          rw [signed, cutOff_of_notPositive notPositive]
          change min (-(⌊(mantissa * 2 ^ exponent : ℝ)⌋₊ : ℤ)).toNat 255 = 0
          omega

/-! ## Whole numbers -/

/--
In single precision natural numbers of few bits are rounded to themselves.
-/
theorem eq_of_roundsTo_natCast {natural : ℕ}
    (small : natural < 2 ^ 24) {rounded : EReal}
    (rounds : RoundsTo .binary32 ((natural : ℝ) : EReal) rounded) :
    rounded = ((natural : ℝ) : EReal) := by
  have finite : ∃ real : ℝ, rounded = real := by
    rcases rounds with
      ⟨sign, magnitude, roundedMagnitude, roundsMagnitude, rank, rfl⟩
    cases roundsMagnitude with
    | infinite =>
        cases sign
        · exact absurd rank (EReal.coe_ne_bot _)
        · exact absurd rank (EReal.coe_ne_top _)
    | finite _ _ => exact ⟨_, Number.Unpacked.signed_coe sign _⟩
  rcases finite with ⟨real, rfl⟩
  rw [(rounds.isRounding (Nat.cast_nonneg _)).eq_natCast small (by decide)]

/-- So doubles of them become singles of the same rank. -/
theorem rank?_ofDouble_natCast {number : Float} {natural : ℕ}
    (small : natural < 2 ^ 24)
    (ranked : Double.rank? number = some ((natural : ℝ) : EReal)) :
    Single.rank? (Number.Single.ofDouble number) =
      some ((natural : ℝ) : EReal) := by
  rcases Number.Single.exists_rank?_ofDouble ranked with
    ⟨rounded, rounds, isSingle⟩
  have place :
      (Format.binary32.mantissaBitsWithoutImplicit : ℤ) + limit .binary32 =
        (128 : ℕ) := by
    decide
  have inside : ((natural : ℝ) : EReal) < bound .binary32 := by
    rw [bound, place, Number.units, one_mul, zpow_natCast, EReal.coe_lt_coe_iff]
    exact_mod_cast small.trans (Nat.pow_lt_pow_right (by decide) (by decide))
  have kept : clip .binary32 (signed .positive ((natural : ℝ) : EReal)) = _ :=
    clip_signed .positive (EReal.coe_nonneg.mpr natural.cast_nonneg)
  rw [if_neg (not_le.mpr inside)] at kept
  rw [isSingle, eq_of_roundsTo_natCast small rounds]
  exact congrArg some kept

/--
A double that is whole becomes the byte that it is cut off to, although it is
made a single.
-/
theorem toNat_byteOf_ofDouble {number : Float} {integer : ℤ}
    (ranked : Double.rank? number = some ((integer : ℝ) : EReal)) :
    ((byteOf (Number.Single.ofDouble number)).toNat : ℤ) =
      max 0 (min integer 255) := by
  rcases lt_or_ge integer 0 with negative | notNegative
  · have below : number ≤ 0.0 := Double.le_iff.mpr
      ⟨_, _, ranked, Number.Double.rank?_zero, by exact_mod_cast negative.le⟩
    rcases Number.Single.ofDouble_mono below with
      ⟨first, second, isFirst, isSecond, ordered⟩
    have zero : Single.rank? (Number.Single.ofDouble 0.0) =
        some (((0 : ℕ) : ℝ) : EReal) :=
      rank?_ofDouble_natCast (by decide) Number.Double.rank?_zero
    rw [isSecond] at zero
    cases zero
    rw [toNat_byteOf isFirst, cutOff_of_notPositive (by simpa using ordered)]
    omega
  · obtain ⟨natural, rfl⟩ := Int.eq_ofNat_of_zero_le notNegative
    rw [Int.cast_natCast] at ranked
    rcases Nat.lt_or_ge 255 natural with large | small
    · rcases Number.Double.exists_ofInt?_natCast
          (show 255 < 2 ^ 53 by decide) with
        ⟨most, -, mostRanked⟩
      have above : most ≤ number := Double.le_iff.mpr
        ⟨_, _, mostRanked, ranked,
          EReal.coe_le_coe_iff.mpr (by exact_mod_cast large.le)⟩
      rcases Number.Single.ofDouble_mono above with
        ⟨first, second, isFirst, isSecond, ordered⟩
      rw [rank?_ofDouble_natCast (by decide) mostRanked] at isFirst
      cases isFirst
      have atLeast := cutOff_mono ordered
      have atMost := (byteOf (Number.Single.ofDouble number)).toNat_lt
      rw [cutOff_natCast, ← toNat_byteOf isSecond] at atLeast
      omega
    · rw [toNat_byteOf (rank?_ofDouble_natCast (by omega) ranked),
        cutOff_natCast]
      omega

end SoundGrid.Picture
