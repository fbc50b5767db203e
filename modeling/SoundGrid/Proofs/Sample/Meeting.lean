import SoundGrid.Proofs.Number.Widening
import SoundGrid.Proofs.Sample.Floating

/-!
# Samples that meet thresholds

A threshold is a double.  Doubles are compared with it as it is, and elements of
an array of singles with the single that is nearest to it, while a cell stores
the double with the value of the sample.  So the stored double is what is
compared, but not always with the threshold that was set.
-/

namespace SoundGrid

open Number

/-- Doubles are in order when they are compared so. -/
theorem Number.Double.compare_eq_lt (first second : Float) :
    (first.toModel.compare second.toModel == some .lt) =
      decide (first < second) := by
  rw [Bool.eq_iff_iff, decide_eq_true_iff, Double.lt_iff, Double.compare_eq]
  cases Double.rank? first with
  | none => simp
  | some lower =>
      cases Double.rank? second with
      | none => simp
      | some upper => simp [compare_lt_iff_lt]

namespace Sample

/-- Whether a sample is an element of an array of singles. -/
def isSingle : Sample → Bool
  | single _ => true
  | _ => false

/-- A threshold as a sample meets it: for a single it is narrowed. -/
def thresholdFor (sample : Sample) (threshold : Float) : Float :=
  if sample.isSingle then Single.toDouble (Single.ofDouble threshold)
    else threshold

/--
A sample is above a threshold when its double is above the threshold as it is
met.
-/
theorem IsFloating.above_eq {sample : Sample} (floating : sample.IsFloating)
    (threshold : Float) :
    ∃ value, sample.toDouble = .ok value ∧
      Arithmetic.above sample (ofDouble threshold) =
        .ok (decide (sample.thresholdFor threshold < value)) := by
  cases floating with
  | double value | wide value =>
      refine ⟨value, rfl, ?_⟩
      rw [← Double.compare_eq_lt]
      rfl
  | single value =>
      refine ⟨Single.toDouble value, rfl, ?_⟩
      rw [← Double.compare_eq_lt]
      change _ = Except.ok
        ((Single.toDouble (Single.ofDouble threshold)).toModel.compare
          (Single.toDouble value).toModel == some .lt)
      rw [Single.compare_toDouble]
      rfl

/--
On the way from a plain double to a sample all values have the format of the
sample.
-/
theorem IsFloating.exists_toward {sample : Sample}
    (floating : sample.IsFloating) (current part : Float) :
    ∃ value, Arithmetic.toward (ofDouble current) sample (ofDouble part) =
        .ok value ∧
      value.IsFloating ∧ value.isSingle = sample.isSingle := by
  cases floating with
  | double value => exact ⟨_, rfl, .double _, rfl⟩
  | wide value => exact ⟨_, rfl, .wide _, rfl⟩
  | single value => exact ⟨_, rfl, .single _, rfl⟩

/--
The threshold as it is met decides as the threshold itself does, unless the
sample is a single, above the threshold, and equal to the narrowed one.
-/
theorem IsFloating.thresholdFor_lt_iff {sample : Sample}
    (floating : sample.IsFloating) {value : Float}
    (converted : sample.toDouble = .ok value) (threshold : Float) :
    (sample.thresholdFor threshold < value ↔ threshold < value) ↔
      ¬ (sample.isSingle = true ∧ threshold < value ∧
        value == Single.toDouble (Single.ofDouble threshold)) := by
  cases floating with
  | double double | wide double =>
      exact iff_of_true Iff.rfl (by simp [isSingle])
  | single single =>
      cases converted
      change (Single.toDouble (Single.ofDouble threshold) <
        Single.toDouble single ↔ _) ↔ _
      rw [Single.toDouble_ofDouble_lt_iff, ← Bool.not_eq_true]
      simp [isSingle]

end Sample

end SoundGrid
