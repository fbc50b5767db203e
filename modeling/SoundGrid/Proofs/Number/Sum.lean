import SoundGrid.Proofs.Number.Product

/-!
# Sums

The sum of two finite doubles has the rank that the exact sum is rounded to, cut
off.  Both mantissas are brought to the smaller exponent first, where they are
added as integers; the integer is then rounded once.
-/

namespace SoundGrid.Number

open Float.Model (Format UnpackedFloat)
open Float.Model.UnpackedFloat (Sign decreaseExponent)

namespace Unpacked

variable {format : Format}

/-- An integer with a sign. -/
theorem apply_cast (sign : Sign) (natural : ℕ) :
    ((sign.apply natural : ℤ) : ℝ) = withSign sign natural := by
  cases sign
  · exact Int.cast_neg _
  · exact Int.cast_natCast natural

/-- A canonical number is rounded to itself. -/
theorem IsCanonical.roundsTo {number : UnpackedFloat} {real : ℝ}
    (canonical : IsCanonical format number)
    (ranked : rank? number = some (real : EReal)) :
    RoundsTo format (real : EReal) (real : EReal) := by
  rcases real_cases ranked with
    ⟨sign, rfl, rfl⟩ | ⟨sign, mantissa, exponent, nonzero, rfl, rfl⟩
  · exact roundsTo_zero format
  · have rounds :=
      roundsTo_withSign (by positivity) (isRounding_units canonical) sign
    rwa [signed_coe] at rounds

/-- An integer with an exponent becomes what their product is rounded to. -/
theorem exists_rank?_normalize (format : Format) (mantissa exponent : ℤ)
    (zeroSign : Sign) :
    ∃ rounded, RoundsTo format ((mantissa * 2 ^ exponent : ℝ) : EReal) rounded ∧
      IsCanonical format (.normalize format mantissa exponent zeroSign) ∧
      rank? (.normalize format mantissa exponent zeroSign) = some rounded := by
  have rounds (sign : Sign) {natural : ℕ} (nonzero : 0 < natural)
      (same : withSign sign natural = mantissa) :
      ∃ rounded, RoundsTo format ((mantissa * 2 ^ exponent : ℝ) : EReal)
          rounded ∧
        IsCanonical format (.round format sign natural exponent) ∧
        rank? (.round format sign natural exponent) = some rounded := by
    rcases isRounding_round format sign exponent nonzero with
      ⟨rounded, rounding, canonical, ranked⟩
    have magnitude :
        withSign sign (natural * 2 ^ exponent) = mantissa * 2 ^ exponent := by
      rw [← same]
      cases sign
      · exact (neg_mul _ _).symm
      · rfl
    rw [← magnitude]
    exact ⟨_, roundsTo_withSign (by positivity) rounding sign,
      canonical, ranked⟩
  rw [UnpackedFloat.normalize]
  rcases lt_trichotomy mantissa 0 with negative | rfl | positive
  · rw [compare_lt_iff_lt.mpr negative]
    refine rounds .negative (by omega) ?_
    have natural : ((-mantissa).toNat : ℤ) = -mantissa := by omega
    have real : ((-mantissa).toNat : ℝ) = -mantissa := by exact_mod_cast natural
    rw [withSign, real, neg_neg]
  · rw [compare_eq_iff_eq.mpr rfl, Int.cast_zero, zero_mul]
    exact ⟨0, roundsTo_zero format, trivial, rfl⟩
  · rw [compare_gt_iff_gt.mpr positive]
    refine rounds .positive (by omega) ?_
    have natural : (mantissa.toNat : ℤ) = mantissa := by omega
    have real : (mantissa.toNat : ℝ) = mantissa := by exact_mod_cast natural
    exact real

/-- A mantissa at a smaller exponent is the same number. -/
theorem decreased_eq (sign : Sign) (mantissa : ℕ) {exponent target : ℤ}
    (smaller : target ≤ exponent) :
    ((sign.apply (decreaseExponent mantissa exponent target).1 : ℤ) : ℝ) *
      2 ^ target = withSign sign (units mantissa exponent) := by
  have exact := (decreaseExponent_eq mantissa exponent target).1
  have aimed : (decreaseExponent mantissa exponent target).2 = target := by
    change exponent - ((exponent - target).toNat : ℤ) = target
    omega
  rw [aimed] at exact
  rw [apply_cast, units, ← exact]
  cases sign
  · exact neg_mul _ _
  · rfl

/-- A sum is what the exact sum is rounded to. -/
theorem exists_rank?_add {first second : UnpackedFloat} {x y : ℝ}
    (firstCanonical : IsCanonical format first)
    (secondCanonical : IsCanonical format second)
    (firstRanked : rank? first = some (x : EReal))
    (secondRanked : rank? second = some (y : EReal)) :
    ∃ rounded, RoundsTo format ((x + y : ℝ) : EReal) rounded ∧
      IsCanonical format (.add format first second) ∧
      rank? (.add format first second) = some rounded := by
  have firstRounds := firstCanonical.roundsTo firstRanked
  have secondRounds := secondCanonical.roundsTo secondRanked
  rcases real_cases firstRanked with
    ⟨sign, rfl, rfl⟩ | ⟨sign, mantissa, exponent, nonzero, rfl, rfl⟩
  · rw [zero_add]
    rcases real_cases secondRanked with
      ⟨other, rfl, rfl⟩ | ⟨other, _, _, _, rfl, rfl⟩
    · refine ⟨0, roundsTo_zero format, ?_⟩
      cases sign <;> cases other <;> exact ⟨trivial, rfl⟩
    · exact ⟨_, secondRounds, secondCanonical, secondRanked⟩
  · rcases real_cases secondRanked with
      ⟨other, rfl, rfl⟩ | ⟨other, term, otherExponent, otherNonzero, rfl, rfl⟩
    · rw [add_zero]
      exact ⟨_, firstRounds, firstCanonical, firstRanked⟩
    · rcases exists_rank?_normalize format
        (sign.apply
          (decreaseExponent mantissa exponent (min exponent otherExponent)).1 +
          other.apply (decreaseExponent term otherExponent
            (min exponent otherExponent)).1)
        (min exponent otherExponent) .positive with
        ⟨rounded, rounds, canonical, ranked⟩
      rw [Int.cast_add, add_mul, decreased_eq sign mantissa (min_le_left _ _),
        decreased_eq other term (min_le_right _ _)] at rounds
      exact ⟨rounded, rounds, canonical, ranked⟩

end Unpacked

/-- A sum of finite doubles is what the exact sum is rounded to, cut off. -/
theorem Double.exists_rank?_add {first second : Float} {x y : ℝ}
    (firstRanked : rank? first = some (x : EReal))
    (secondRanked : rank? second = some (y : EReal)) :
    ∃ rounded, Unpacked.RoundsTo .binary64 ((x + y : ℝ) : EReal) rounded ∧
      rank? (first + second) = some (Unpacked.clip .binary64 rounded) := by
  rcases Unpacked.exists_rank?_add (Unpacked.isCanonical_unpack _ _)
    (Unpacked.isCanonical_unpack _ _) firstRanked secondRanked with
    ⟨rounded, rounds, canonical, ranked⟩
  refine ⟨rounded, rounds, (rank?_ofModel_pack _ canonical).trans ?_⟩
  exact congrArg (Option.map (Unpacked.clip .binary64)) ranked

end SoundGrid.Number
