import Mathlib
import SoundGrid.Proofs.Mapping
import SoundGrid.Proofs.Number.Whole

/-!
# Exact arithmetic

Samples and cell values as rational numbers. Nothing is rounded and nothing is
refused, comparisons are those of the rational numbers, and a cell stores what
it is given. The numbers in the settings are read exactly, be they rational
numbers themselves or doubles, so settings that were accepted as doubles can be
used.
-/

namespace SoundGrid

/-! ## Doubles that are read exactly -/

namespace Number.Double

theorem rank?_toRat {number : Float} (finite : number.isFinite = true) :
    rank? number = some ((toRat number : ℝ) : EReal) := by
  rcases isFinite_iff_scaled?.mp finite with ⟨exact, isExact⟩
  rw [rank?_of_scaled? isExact, toRat, isExact, Option.map_some,
    Option.getD_some, Scaled.cast_toRat]

/-- The exact values of doubles are ordered as the doubles are. -/
theorem toRat_le {first second : Float} (firstFinite : first.isFinite = true)
    (secondFinite : second.isFinite = true) (below : first ≤ second) :
    toRat first ≤ toRat second := by
  rcases Double.le_iff.mp below with
    ⟨lower, upper, firstRanked, secondRanked, ordered⟩
  rw [rank?_toRat firstFinite] at firstRanked
  rw [rank?_toRat secondFinite] at secondRanked
  cases firstRanked
  cases secondRanked
  exact_mod_cast EReal.coe_le_coe_iff.mp ordered

theorem toRat_mem_Icc {number : Float} (finite : number.isFinite = true)
    (inside : 0.0 ≤ number ∧ number ≤ 1.0) :
    toRat number ∈ Set.Icc (0 : ℚ) 1 := by
  have zero : toRat 0.0 = 0 := by decide +kernel
  have one : toRat 1.0 = 1 := by decide +kernel
  have zeroFinite : (0.0 : Float).isFinite = true := by decide +kernel
  have oneFinite : (1.0 : Float).isFinite = true := by decide +kernel
  rw [← zero, ← one]
  exact ⟨toRat_le zeroFinite finite inside.1,
    toRat_le finite oneFinite inside.2⟩

end Number.Double

/-! ## Values -/

/-- Numbers in settings that have an exact value. -/
class Readable (Real : Type) where
  /-- The exact value. -/
  toRat : Real → ℚ

instance : Readable ℚ where
  toRat := id

/--
A double is read as the quotient that it is, and as zero if it is not finite.
-/
instance : Readable Float where
  toRat := Number.Double.toRat

/-- A sample or a cell value without rounding, next to settings of some type. -/
structure Exact (Real : Type) where
  toRat : ℚ
deriving DecidableEq

namespace Exact

variable {Real : Type} [Readable Real]

instance : Arithmetic Real (Exact Real) where
  zero := ⟨0⟩
  setting given := ⟨Readable.toRat given⟩
  fraction drawn := ⟨drawn.val / 2 ^ 53⟩
  count number := ⟨number⟩
  add first second := .ok ⟨first.toRat + second.toRat⟩
  sub first second := .ok ⟨first.toRat - second.toRat⟩
  mul first second := .ok ⟨first.toRat * second.toRat⟩
  less first second := .ok (decide (first.toRat < second.toRat))
  store value := .ok value

/-- What cells store is what they are given. -/
@[simp]
theorem store_eq (value : Exact Real) : Arithmetic.store value = .ok value :=
  rfl

/-- Some way towards a sample, and on if this is above the threshold. -/
def smoothed (settings : SmoothedSettings Real) (current sample : Exact Real) :
    Exact Real :=
  ⟨current.toRat + (sample.toRat - current.toRat) *
    Readable.toRat settings.smoothing⟩

theorem smoothed_eq (settings : SmoothedSettings Real)
    (current sample : Exact Real) :
    Mapping.smoothed settings current sample =
      .ok (smoothed settings current sample,
        decide (Readable.toRat settings.threshold <
          (smoothed settings current sample).toRat)) :=
  rfl

end Exact

end SoundGrid
