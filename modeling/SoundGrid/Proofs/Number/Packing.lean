import SoundGrid.Proofs.Number.Rounding

/-!
# Packed numbers

Canonical numbers are read back out of their bits as they were, and those that
are too large for the format as infinities.  In terms of ranks the bits keep
what is not cut off, and cutting off keeps the order.
-/

namespace SoundGrid.Number.Unpacked

open Float.Model (Format UnpackedFloat)
open Float.Model.UnpackedFloat (Sign pack unpack packComponents packedInfinity)

variable {format : Format}

/-! ## Reading bits -/

theorem unpack_packedInfinity (sign : Sign) :
    unpack format (packedInfinity format sign) = .infinity sign := by
  simp [unpack, packedInfinity]

/-- The exponent from which on numbers are too large. -/
def limit (format : Format) : ℤ :=
  2 ^ format.exponentBits - 1 -
    (format.exponentBias + format.mantissaBitsWithoutImplicit)

/-- A full mantissa is read back with the bit that is not written. -/
theorem unpack_packComponents_full (sign : Sign) {mantissa biased : ℕ}
    (nonzero : 0 < mantissa) (short : mantissa < 2 ^ format.mantissaBits)
    (full : 2 ^ format.mantissaBitsWithoutImplicit ≤ mantissa)
    (positive : 0 < biased) (fits : biased + 1 < 2 ^ format.exponentBits) :
    unpack format (packComponents format sign (BitVec.ofNat _ biased)
      (BitVec.ofNat _ mantissa)) = .finite sign mantissa
        (biased - (format.exponentBias + format.mantissaBitsWithoutImplicit))
        nonzero := by
  have notLast : BitVec.ofNat format.exponentBits biased ≠ -1#_ := by
    intro last
    have values := congrArg BitVec.toNat last
    rw [BitVec.neg_one_eq_allOnes, BitVec.toNat_allOnes, BitVec.toNat_ofNat,
      Nat.mod_eq_of_lt (by omega)] at values
    omega
  have notFirst : BitVec.ofNat format.exponentBits biased ≠ 0#_ := by
    intro first
    have values := congrArg BitVec.toNat first
    rw [BitVec.toNat_ofNat, Nat.mod_eq_of_lt (by omega), BitVec.toNat_ofNat,
      Nat.zero_mod] at values
    omega
  have implicitBit := two_pow_mantissaBits format
  have whole :
      (1#1 ++ BitVec.ofNat format.mantissaBitsWithoutImplicit mantissa).toNat =
      mantissa := by
    rw [toNat_one_append, BitVec.toNat_ofNat, Nat.mod_eq_sub_mod full,
      Nat.mod_eq_of_lt (by omega)]
    omega
  have exponent : (BitVec.ofNat format.exponentBits biased).toNat = biased := by
    rw [BitVec.toNat_ofNat, Nat.mod_eq_of_lt (by omega)]
  simp only [unpack, UnpackedFloat.unpackMantissa_packComponents,
    UnpackedFloat.unpackExponent_packComponents,
    UnpackedFloat.unpackSign_packComponents, Sign.ofBitVec_toBitVec]
  rw [if_neg notLast, if_neg notFirst]
  simp only [whole, exponent]

/-- A short mantissa has the least exponent. -/
theorem unpack_packComponents_short (sign : Sign) {mantissa : ℕ}
    (nonzero : 0 < mantissa)
    (short : mantissa < 2 ^ format.mantissaBitsWithoutImplicit) :
    unpack format (packComponents format sign 0#_ (BitVec.ofNat _ mantissa)) =
      .finite sign mantissa format.minExponent nonzero := by
  have notLast : (0#_ : BitVec format.exponentBits) ≠ -1#_ := by
    intro last
    have values := congrArg BitVec.toNat last
    rw [BitVec.neg_one_eq_allOnes, BitVec.toNat_allOnes, BitVec.toNat_ofNat,
      Nat.zero_mod] at values
    have capacity : 2 ^ 1 ≤ 2 ^ format.exponentBits :=
      Nat.pow_le_pow_right two_pos format.he
    omega
  have whole :
      (BitVec.ofNat format.mantissaBitsWithoutImplicit mantissa).toNat =
        mantissa := by
    rw [BitVec.toNat_ofNat, Nat.mod_eq_of_lt short]
  have notZero :
      BitVec.ofNat format.mantissaBitsWithoutImplicit mantissa ≠ 0#_ := by
    intro zero
    have values := congrArg BitVec.toNat zero
    rw [whole, BitVec.toNat_ofNat, Nat.zero_mod] at values
    omega
  have exponent : ((0#_ : BitVec format.exponentBits).toNat : ℤ) -
      (format.exponentBias + format.mantissaBitsWithoutImplicit) + 1 =
        format.minExponent := by
    rw [minExponent_eq, BitVec.toNat_ofNat, Nat.zero_mod]
    omega
  simp only [unpack, UnpackedFloat.unpackMantissa_packComponents,
    UnpackedFloat.unpackExponent_packComponents,
    UnpackedFloat.unpackSign_packComponents, Sign.ofBitVec_toBitVec]
  rw [if_neg notLast, if_pos trivial, dif_neg notZero]
  simp only [whole, exponent]

/-- A canonical number that is not too large is read back as it was. -/
theorem unpack_pack_finite (sign : Sign) {mantissa : ℕ} {exponent : ℤ}
    (nonzero : 0 < mantissa)
    (isPlace : IsPlace format (units mantissa exponent) exponent)
    (small : exponent < limit format) :
    unpack format (pack format (.finite sign mantissa exponent nonzero)) =
      .finite sign mantissa exponent nonzero := by
  rcases isPlace_units_iff.mp isPlace with ⟨least, short, full⟩
  have leastEq := minExponent_eq format
  rw [limit] at small
  obtain ⟨biased, biasedEq⟩ : ∃ biased : ℕ,
      (biased : ℤ) =
        exponent + format.exponentBias + format.mantissaBitsWithoutImplicit :=
    ⟨_, Int.toNat_of_nonneg (by omega)⟩
  have fits : biased + 1 < 2 ^ format.exponentBits := by
    zify
    omega
  simp only [pack, ← biasedEq, Int.toNat_natCast]
  rw [if_neg (Nat.not_le.mpr fits)]
  by_cases bits : mantissa.log2 + 1 = format.mantissaBits
  · have long : 2 ^ format.mantissaBitsWithoutImplicit ≤ mantissa := by
      rw [Format.mantissaBits] at bits
      have lowest := Nat.log2_self_le (Nat.ne_of_gt nonzero)
      rwa [show mantissa.log2 = format.mantissaBitsWithoutImplicit by omega]
        at lowest
    have exponentEq : (biased : ℤ) -
        (format.exponentBias + format.mantissaBitsWithoutImplicit) =
          exponent := by
      omega
    rw [if_pos bits,
      unpack_packComponents_full sign nonzero short long (by omega) fits]
    simp only [exponentEq]
  · have tooShort : mantissa < 2 ^ format.mantissaBitsWithoutImplicit := by
      rw [← Nat.log2_lt (Nat.ne_of_gt nonzero)] at short ⊢
      rw [Format.mantissaBits] at short bits
      omega
    have exponentEq : format.minExponent = exponent := by
      by_contra other
      exact Nat.not_le.mpr tooShort (full (by omega))
    rw [if_neg bits, unpack_packComponents_short sign nonzero tooShort]
    simp only [exponentEq]

theorem unpack_pack_large (sign : Sign) {mantissa : ℕ} {exponent : ℤ}
    (nonzero : 0 < mantissa) (large : limit format ≤ exponent) :
    unpack format (pack format (.finite sign mantissa exponent nonzero)) =
      .infinity sign := by
  have positive : 0 < 2 ^ format.exponentBits := Nat.two_pow_pos _
  rw [limit] at large
  rw [pack, if_pos]
  · exact unpack_packedInfinity sign
  · zify
    omega

/-! ## Cutting off -/

/-- The least number that is too large. -/
noncomputable def bound (format : Format) : EReal :=
  units 1 (format.mantissaBitsWithoutImplicit + limit format)

/-- A rank with what is too large cut off. -/
noncomputable def clip (format : Format) (rank : EReal) : EReal :=
  if bound format ≤ rank then ⊤ else if rank ≤ -bound format then ⊥ else rank

/-- Cutting off keeps the order. -/
theorem clip_mono (format : Format) : Monotone (clip format) := by
  intro lower upper ordered
  simp only [clip]
  by_cases lowerLarge : bound format ≤ lower
  · rw [if_pos lowerLarge, if_pos (lowerLarge.trans ordered)]
  · rw [if_neg lowerLarge]
    by_cases upperLarge : bound format ≤ upper
    · rw [if_pos upperLarge]
      exact le_top
    · rw [if_neg upperLarge]
      by_cases lowerSmall : lower ≤ -bound format
      · rw [if_pos lowerSmall]
        exact bot_le
      · rw [if_neg lowerSmall, if_neg fun upperSmall =>
          lowerSmall (ordered.trans upperSmall)]
        exact ordered

theorem bound_pos (format : Format) : 0 < bound format := by
  rw [bound, EReal.coe_pos]
  positivity

theorem clip_signed (sign : Sign) {rank : EReal} (notNegative : 0 ≤ rank) :
    clip format (signed sign rank) =
      signed sign (if bound format ≤ rank then ⊤ else rank) := by
  have positive := bound_pos format
  have negative : -bound format < 0 := EReal.neg_lt_zero.mpr positive
  cases sign with
  | positive =>
      have notSmall : ¬ rank ≤ -bound format :=
        not_le.mpr (negative.trans_le notNegative)
      change clip format rank = if bound format ≤ rank then ⊤ else rank
      rw [clip, if_neg notSmall]
  | negative =>
      have notLarge : ¬ bound format ≤ -rank := by
        have below : -rank ≤ 0 := EReal.neg_le_zero.mpr notNegative
        exact not_le.mpr (below.trans_lt positive)
      change clip format (-rank) = -(if bound format ≤ rank then ⊤ else rank)
      rw [clip, if_neg notLarge]
      by_cases large : bound format ≤ rank
      · rw [if_pos large, if_pos (EReal.neg_le_neg_iff.mpr large),
          EReal.neg_top]
      · rw [if_neg large, if_neg fun small =>
          large (EReal.neg_le_neg_iff.mp small)]

/-- The exponent tells whether a canonical number is too large. -/
theorem bound_le_iff {mantissa : ℕ} {exponent : ℤ}
    (wide : 1 < format.exponentBits)
    (isPlace : IsPlace format (units mantissa exponent) exponent) :
    bound format ≤ (units mantissa exponent : EReal) ↔
      limit format ≤ exponent := by
  have beyond : format.minExponent < limit format := by
    have capacity : 2 ^ 2 ≤ 2 ^ format.exponentBits :=
      Nat.pow_le_pow_right two_pos wide
    zify at capacity
    rw [minExponent_eq, limit]
    omega
  rw [bound, EReal.coe_le_coe_iff, units, one_mul]
  constructor
  · intro large
    by_contra small
    have powers := large.trans_lt isPlace.below
    have exponents := (zpow_lt_zpow_iff_right₀ (one_lt_two (α := ℝ))).mp powers
    rw [Format.mantissaBits] at exponents
    omega
  · intro large
    refine le_trans (zpow_le_zpow_right₀ one_le_two ?_)
      (isPlace.full (by omega))
    rw [Format.mantissaBits]
    omega

/-- Bits keep the rank of a canonical number, unless it is too large. -/
theorem rank?_unpack_pack (wide : 1 < format.exponentBits)
    {number : UnpackedFloat} (canonical : IsCanonical format number) :
    rank? (unpack format (pack format number)) =
      (rank? number).map (clip format) := by
  cases number with
  | notANumber =>
      rw [pack, UnpackedFloat.unpack_packedNaN]
      rfl
  | infinity sign =>
      rw [pack, unpack_packedInfinity]
      change some _ = some (clip format (signed sign ⊤))
      rw [clip_signed sign le_top, if_pos le_top]
  | zero sign =>
      rw [pack, UnpackedFloat.unpack_packedZero]
      change some 0 = some (clip format (signed .positive 0))
      rw [clip_signed .positive (le_refl 0),
        if_neg (not_le.mpr (bound_pos format))]
      rfl
  | finite sign mantissa exponent nonzero =>
      have notNegative : (0 : EReal) ≤ units mantissa exponent :=
        (magnitude_pos exponent nonzero).le
      change _ = some (clip format (signed sign (units mantissa exponent)))
      rw [clip_signed sign notNegative]
      by_cases large : limit format ≤ exponent
      · rw [unpack_pack_large sign nonzero large,
          if_pos ((bound_le_iff wide canonical).mpr large)]
        rfl
      · rw [unpack_pack_finite sign nonzero canonical (not_le.mp large),
          if_neg fun above => large ((bound_le_iff wide canonical).mp above)]
        rfl

end SoundGrid.Number.Unpacked
