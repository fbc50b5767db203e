import SoundGrid.Proofs.Number.Product

/-!
# Square roots

The square root of a double that is not negative has the rank that the exact
root is rounded to. The mantissa is made so long, and its exponent even, that
the whole part of its root has bits enough. A root is never half way between two
whole numbers, so the remainder of the whole root tells on which side of the
half it lies.
-/

namespace SoundGrid.Number

open Float.Model (Format UnpackedFloat totalExponent)
open Float.Model.UnpackedFloat (Accuracy Sign sqrtCore roundWithAccuracy)

namespace Unpacked

/-- Where a root lies between its whole part and the next whole number. -/
def accuracyOfRoot (root remainder : ℕ) : Accuracy :=
  if remainder = 0 then .exact
    else .inexact (if remainder ≤ root then .lt else .gt)

/--
A root is represented by its whole part, and the remainder tells the two bits.
-/
theorem represents_accuracyOfRoot (natural : ℕ) :
    Represents (.ofMantissaAndAccuracy natural.sqrt
      (accuracyOfRoot natural.sqrt
        (natural - natural.sqrt * natural.sqrt))) √natural := by
  have whole : natural.sqrt * natural.sqrt ≤ natural := Nat.sqrt_le natural
  have next : natural < (natural.sqrt + 1) * (natural.sqrt + 1) :=
    Nat.lt_succ_sqrt natural
  have square : √(natural : ℝ) * √(natural : ℝ) = natural :=
    Real.mul_self_sqrt (Nat.cast_nonneg _)
  have notNegative : 0 ≤ √(natural : ℝ) := Real.sqrt_nonneg _
  generalize natural.sqrt = root at whole next
  have rootNotNegative : (0 : ℝ) ≤ root := Nat.cast_nonneg root
  obtain ⟨remainder, rfl⟩ := Nat.exists_eq_add_of_le whole
  rw [Nat.add_sub_cancel_left, accuracyOfRoot]
  generalize √((root * root + remainder : ℕ) : ℝ) = exact at square notNegative
  push_cast at square
  have atLeast : (root : ℝ) ≤ exact := by
    have remainderNotNegative : (0 : ℝ) ≤ remainder := Nat.cast_nonneg remainder
    nlinarith
  have below : exact < root + 1 := by
    have less : (root * root + remainder : ℝ) < (root + 1) * (root + 1) := by
      exact_mod_cast next
    nlinarith
  by_cases zero : remainder = 0
  · rw [zero, Nat.cast_zero, add_zero] at square
    have same : exact = root := by nlinarith
    rw [if_pos zero, same]
    exact represents_exact root
  · have positive : (1 : ℝ) ≤ remainder := by
      exact_mod_cast Nat.pos_of_ne_zero zero
    have above : (root : ℝ) < exact := by nlinarith
    rw [if_neg zero]
    by_cases small : remainder ≤ root
    · have smallReal : (remainder : ℝ) ≤ root := by exact_mod_cast small
      rw [if_pos small]
      refine ⟨exact - root, ?_, by linarith, by nlinarith,
        iff_of_true rfl (by linarith)⟩
      change exact = root + (0 : ℕ) / 2 + (exact - root)
      push_cast
      ring
    · have largeReal : (root : ℝ) + 1 ≤ remainder := by
        exact_mod_cast Nat.lt_of_not_le small
      have beyond : (root : ℝ) + 1 / 2 < exact := by nlinarith
      rw [if_neg small]
      refine ⟨exact - root - 1 / 2, ?_, by linarith, by linarith,
        iff_of_true rfl (by linarith)⟩
      change exact = root + (1 : ℕ) / 2 + (exact - root - 1 / 2)
      push_cast
      ring

/-- The whole part of the root has bits enough, and the remainder is kept. -/
theorem isRounding_sqrtCore (format : Format) {mantissa : ℕ}
    (nonzero : 0 < mantissa) (exponent : ℤ) :
    let (root, target, accuracy) := sqrtCore format mantissa exponent
    ∃ rounded : ℝ, IsRounding format √(units mantissa exponent) rounded ∧
      IsCanonical format
        (roundWithAccuracy format .positive root target accuracy) ∧
      rank? (roundWithAccuracy format .positive root target accuracy) =
        some (rounded : EReal) := by
  rw [sqrtCore]
  dsimp only
  generalize aimed : min (exponent.ediv 2)
    (format.targetExponent ((totalExponent mantissa exponent + 1).ediv 2)) =
      target
  have half : exponent.ediv 2 * 2 ≤ exponent :=
    Int.ediv_mul_le exponent two_ne_zero
  have shift : ((exponent - 2 * target).toNat : ℤ) = exponent - 2 * target :=
    Int.toNat_of_nonneg (by omega)
  generalize (exponent - 2 * target).toNat = bits at shift
  have magnitude :
      √(units mantissa exponent) = √(mantissa <<< bits : ℕ) * 2 ^ target := by
    have exponents : exponent = bits + (target + target) := by omega
    rw [units, exponents, zpow_add₀ two_ne_zero, zpow_natCast,
      zpow_add₀ two_ne_zero, ← mul_assoc, Real.sqrt_mul (by positivity),
      Real.sqrt_mul_self (by positivity), Nat.shiftLeft_eq]
    push_cast
    rfl
  have shorter : target ≤ format.targetExponent
      (totalExponent (mantissa <<< bits).sqrt target) := by
    have total : (totalExponent mantissa exponent + 1).ediv 2 * 2 ≤
        totalExponent mantissa exponent + 1 := Int.ediv_mul_le _ two_ne_zero
    rw [Format.targetExponent, Format.mantissaBits] at aimed
    rw [Format.targetExponent, Format.mantissaBits]
    by_cases small : target ≤ format.minExponent
    · omega
    · -- The long mantissa has twice the bits that its root needs.
      rw [totalExponent] at total aimed
      have long :
          2 ^ (2 * format.mantissaBitsWithoutImplicit) ≤ mantissa <<< bits := by
        rw [Nat.shiftLeft_eq]
        calc
          2 ^ (2 * format.mantissaBitsWithoutImplicit) ≤
            2 ^ (mantissa.log2 + bits) :=
            Nat.pow_le_pow_right two_pos (by omega)
          _ = 2 ^ mantissa.log2 * 2 ^ bits := Nat.pow_add ..
          _ ≤ mantissa * 2 ^ bits :=
            Nat.mul_le_mul_right _ (Nat.log2_self_le (Nat.ne_of_gt nonzero))
      have root : 2 ^ format.mantissaBitsWithoutImplicit ≤
          (mantissa <<< bits).sqrt := by
        rwa [Nat.le_sqrt, ← Nat.pow_add, ← Nat.two_mul]
      have positive : 0 < 2 ^ format.mantissaBitsWithoutImplicit :=
        Nat.two_pow_pos _
      have enough := (Nat.le_log2 (by omega)).mpr root
      rw [totalExponent]
      omega
  rw [magnitude]
  exact isRounding_roundWithAccuracy format .positive
    (represents_accuracyOfRoot (mantissa <<< bits)) shorter

/-- A root is what the exact root is rounded to. -/
theorem exists_rank?_sqrt {format : Format} {number : UnpackedFloat} {x : ℝ}
    (ranked : rank? number = some (x : EReal)) (notNegative : 0 ≤ x) :
    ∃ rounded, RoundsTo format ((√x : ℝ) : EReal) rounded ∧
      IsCanonical format (.sqrt format number) ∧
      rank? (.sqrt format number) = some rounded := by
  rcases real_cases ranked with
    ⟨sign, rfl, rfl⟩ | ⟨sign, mantissa, exponent, nonzero, rfl, rfl⟩
  · rw [Real.sqrt_zero]
    exact ⟨0, roundsTo_zero format, trivial, rfl⟩
  · have magnitude : (0 : ℝ) < units mantissa exponent := by positivity
    cases sign with
    | negative =>
        exact absurd notNegative (not_le.mpr (neg_lt_zero.mpr magnitude))
    | positive =>
        rcases isRounding_sqrtCore format nonzero exponent with
          ⟨rounded, rounding, canonical, rankedRoot⟩
        exact ⟨_, roundsTo_withSign (Real.sqrt_nonneg _) rounding .positive,
          canonical, rankedRoot⟩

end Unpacked

/--
The root of a finite double that is not negative is what the exact root is
rounded to.
-/
theorem Double.exists_rank?_sqrt {number : Float} {x : ℝ}
    (ranked : rank? number = some (x : EReal)) (notNegative : 0 ≤ x) :
    ∃ rounded, Unpacked.RoundsTo .binary64 ((√x : ℝ) : EReal) rounded ∧
      rank? number.sqrt = some (Unpacked.clip .binary64 rounded) := by
  rcases Unpacked.exists_rank?_sqrt ranked notNegative with
    ⟨rounded, rounds, canonical, rankedRoot⟩
  refine ⟨rounded, rounds, (rank?_ofModel_pack _ canonical).trans ?_⟩
  exact congrArg (Option.map (Unpacked.clip .binary64)) rankedRoot

end SoundGrid.Number
