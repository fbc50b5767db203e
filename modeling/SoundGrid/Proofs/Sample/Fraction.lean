import SoundGrid.Proofs.Number.Accuracy
import SoundGrid.Proofs.Sample.Meeting

/-!
# Samples that meet fractions

A drawn fraction is a double from zero to below one. A scaled sample meets it as
it would meet a threshold: it is a double or a single, because the scale is a
double, and a single meets the fraction when that has been narrowed.

So a fraction below a scaled sample is missed when the sample is a single and
the fraction becomes equal to it by the narrowing. Fractions close to one become
one in this way.
-/

namespace SoundGrid

open Number

theorem Number.Double.lt_of_lt_of_le {first second third : Float}
    (below : first < second) (atMost : second ≤ third) : first < third := by
  rcases Double.lt_iff.mp below with
    ⟨lower, middle, firstRanked, secondRanked, ordered⟩
  rcases Double.le_iff.mp atMost with
    ⟨other, upper, otherRanked, thirdRanked, further⟩
  rw [secondRanked] at otherRanked
  cases otherRanked
  exact Double.lt_iff.mpr ⟨lower, upper, firstRanked, thirdRanked,
    ordered.trans_le further⟩

namespace Sample

/-! ## Fractions -/

/-- As a double a fraction is not below zero, and below one. -/
theorem exists_rank?_ofFraction (drawn : Fraction) :
    ∃ real : ℝ, Double.rank? (ofFraction drawn) = some (real : EReal) ∧
      0 ≤ real ∧ real < 1 := by
  rcases drawn with ⟨numerator, bounded⟩
  cases numerator with
  | zero => exact ⟨((0 : ℤ) : ℝ), Double.rank?_zero, by simp, by simp⟩
  | succ previous =>
      have nonzero : 0 < previous + 1 := Nat.succ_pos previous
      rcases Unpacked.isRounding_round .binary64 .positive (-53) nonzero with
        ⟨rounded, rounding, canonical, ranked⟩
      have made : ofFraction ⟨previous + 1, bounded⟩ =
          .ofModel (.pack (.round .binary64 .positive (previous + 1) (-53))) :=
        rfl
      have largest :
          IsPlace .binary64 (units (9007199254740991 : ℕ) (-53)) (-53) :=
        Unpacked.isPlace_units_iff.mpr (by decide)
      have atMost : ((previous + 1 : ℕ) : ℝ) * 2 ^ (-53 : ℤ) ≤
          units (9007199254740991 : ℕ) (-53) := by
        have whole : previous + 1 ≤ 9007199254740991 := by omega
        have wholeReal : ((previous + 1 : ℕ) : ℝ) ≤ (9007199254740991 : ℕ) := by
          exact_mod_cast whole
        exact mul_le_mul_of_nonneg_right wholeReal (by positivity)
      have below : rounded < 1 := by
        refine (rounding.mono (Unpacked.isRounding_units largest)
          atMost).trans_lt ?_
        norm_num [units]
      have beyond : ¬ Unpacked.bound .binary64 ≤ (rounded : EReal) := by
        rw [Unpacked.bound_binary64, EReal.coe_le_coe_iff, not_le]
        exact below.trans (one_lt_pow₀ one_lt_two (by decide))
      refine ⟨rounded, ?_, rounding.notNegative, below⟩
      rw [made, Double.rank?_ofModel_pack _ canonical, ranked, Option.map_some,
        Unpacked.clip_signed .positive
          (EReal.coe_nonneg.mpr rounding.notNegative), if_neg beyond]
      rfl

theorem zero_le_ofFraction (drawn : Fraction) : 0.0 ≤ ofFraction drawn := by
  rcases exists_rank?_ofFraction drawn with ⟨real, ranked, notNegative, -⟩
  refine Double.le_iff.mpr ⟨_, _, Double.rank?_zero, ranked, ?_⟩
  rw [Int.cast_zero]
  exact EReal.coe_le_coe_iff.mpr notNegative

theorem ofFraction_lt_one (drawn : Fraction) : ofFraction drawn < 1.0 := by
  rcases exists_rank?_ofFraction drawn with ⟨real, ranked, -, below⟩
  refine Double.lt_iff.mpr ⟨_, _, ranked, Double.rank?_one, ?_⟩
  rw [Int.cast_one]
  exact EReal.coe_lt_coe_iff.mpr below

/-! ## Scaled samples -/

/-- A number and a double meet as doubles. -/
theorem exists_doubles_of_align {number : Number}
    {scale : Float} {pair : Number.Pair}
    (aligned : Number.align number (.double scale) = .ok pair) :
    ∃ first, pair = .doubles first scale := by
  cases number with
  | int value =>
      rcases bind_eq_ok_iff.mp aligned with ⟨first, -, returned⟩
      exact ⟨first, (Except.ok.inj returned).symm⟩
  | double value => exact ⟨value, (Except.ok.inj aligned).symm⟩

/-- Whatever can be scaled by a double becomes a double or a single. -/
theorem isFloating_of_mul {sample product : Sample} {scale : Float}
    (scaled : Arithmetic.mul sample (Arithmetic.setting scale) = .ok product) :
    product.IsFloating := by
  rcases bind_eq_ok_iff.mp scaled with ⟨pair, aligned, multiplied⟩
  cases sample with
  | wide value =>
      cases aligned
      cases multiplied
      exact .wide _
  | single value =>
      cases aligned
      cases multiplied
      exact .single _
  | byte value =>
      cases aligned
      cases multiplied
      exact .wide _
  | plain given =>
      change align (.plain given) (.plain (.double scale)) = _ at aligned
      rw [align] at aligned
      cases read : given.number? with
      | none =>
          rw [read] at aligned
          cases aligned
      | some number =>
          rw [read] at aligned
          rcases bind_eq_ok_iff.mp aligned with ⟨joined, met, returned⟩
          rcases exists_doubles_of_align met with ⟨first, rfl⟩
          cases returned
          cases multiplied
          exact .double _

/--
A single that a fraction is below, but not when it has been narrowed: by that it
becomes equal to the single.
-/
structure Absorbs (product : Sample) (drawn : Fraction) : Prop where
  single : product.isSingle = true
  below : ∃ value, product.toDouble = .ok value ∧ ofFraction drawn < value ∧
    (value == Single.toDouble (Single.ofDouble (ofFraction drawn))) = true

/--
A fraction is found below a scaled sample where it is below it and not absorbed.
-/
theorem IsFloating.exists_fraction_less {product : Sample}
    (floating : product.IsFloating) (drawn : Fraction) :
    ∃ value answer, product.toDouble = .ok value ∧
      Arithmetic.less (Arithmetic.fraction drawn) product = .ok answer ∧
      (answer = true ↔ ofFraction drawn < value ∧ ¬ product.Absorbs drawn) := by
  rcases floating.above_eq (ofFraction drawn) with ⟨value, converted, answered⟩
  refine ⟨value, _, converted, answered, ?_⟩
  have narrowed := floating.thresholdFor_lt_iff converted (ofFraction drawn)
  have absorbs : product.Absorbs drawn ↔
      product.isSingle = true ∧ ofFraction drawn < value ∧
      (value == Single.toDouble (Single.ofDouble (ofFraction drawn))) =
        true := by
    constructor
    · rintro ⟨single, other, again, below, equal⟩
      rw [converted] at again
      cases again
      exact ⟨single, below, equal⟩
    · rintro ⟨single, below, equal⟩
      exact ⟨single, value, converted, below, equal⟩
  rw [decide_eq_true_iff, absorbs]
  tauto

/--
A single between a fraction and a scaled sample that absorbs it absorbs it as
well.
-/
theorem Absorbs.of_le {product bound : Sample} {drawn : Fraction}
    (absorbs : bound.Absorbs drawn) (floating : product.IsFloating)
    (single : product.isSingle = true) {value limit : Float}
    (converted : product.toDouble = .ok value)
    (below : ofFraction drawn < value)
    (boundConverted : bound.toDouble = .ok limit) (ordered : value ≤ limit) :
    product.Absorbs drawn := by
  refine ⟨single, value, converted, below, ?_⟩
  rcases absorbs.below with ⟨same, again, -, equal⟩
  rw [boundConverted] at again
  cases again
  cases floating with
  | double | wide => cases single
  | single number =>
      cases converted
      rcases Double.le_iff.mp ordered with
        ⟨rank, limitRank, ranked, limitRanked, upper⟩
      rcases Double.beq_iff.mp equal with ⟨middle, middleRanked, narrowedRanked⟩
      rcases Double.le_iff.mp
          (Single.toDouble_ofDouble_le (Double.le_of_lt below)) with
        ⟨narrowed, atLeast, narrowedAgain, rankedAgain, lower⟩
      rw [limitRanked] at middleRanked
      cases middleRanked
      rw [narrowedRanked] at narrowedAgain
      cases narrowedAgain
      rw [ranked] at rankedAgain
      cases rankedAgain
      exact Double.beq_iff.mpr ⟨rank, ranked,
        by rw [narrowedRanked, le_antisymm upper lower]⟩

end Sample

end SoundGrid
