import SoundGrid.Proofs.Fault
import SoundGrid.Proofs.Loudness.Total

/-!
# Levelling without rounding

In the real numbers the gain brings a window exactly to its target, unless the
greatest gain keeps it below or some samples are cut off.  Both only make it
quieter, so no window comes out louder than the target, and a window that is
left as it is was no louder than silence.

Between silence and the greatest gain nothing is left of the volume of a
recording: a window that is played louder has a gain that is smaller by the same
factor.
-/

namespace SoundGrid

/-- Real numbers are operands as they are. -/
noncomputable instance : Metering ℝ ℝ where
  zero := 0
  add := (· + ·)
  mul := (· * ·)
  share total count := total / count
  sqrt := Real.sqrt
  abs number := |number|
  clip number := max 0 (min number 1)
  operand := id
  unity := 1
  atMost first second := .ok (decide (first ≤ second))
  less first second := .ok (decide (first < second))
  div first second :=
    if second = 0 then .error (.misuse .divisionByZero)
      else .ok (first / second)
  factor := .ok
  output := id

namespace Loudness

variable {loudness : Loudness ℝ} {window : List ℝ} {scale factor : ℝ}

/-! ## Mean squares -/

/-- The mean square of a window. -/
noncomputable def meanSquare (window : List ℝ) : ℝ :=
  (window.map (· ^ 2)).sum / window.length

theorem meanSquare_nonneg (window : List ℝ) : 0 ≤ meanSquare window := by
  refine div_nonneg (List.sum_nonneg fun square member => ?_)
    (Nat.cast_nonneg _)
  rcases List.mem_map.mp member with ⟨sample, -, rfl⟩
  exact sq_nonneg sample

/-- What is computed is the root of the mean square. -/
theorem rms_eq (nonempty : window ≠ []) :
    rms ℝ window = √(meanSquare window) := by
  have squares :
      (window.map fun sample => sample * sample) = window.map (· ^ 2) :=
    List.map_congr_left fun sample _ => (sq sample).symm
  have total :=
    (isTotal_pairwiseSum (window.map fun sample : ℝ => sample * sample)).eq_sum
  rw [Multiset.sum_coe, squares] at total
  rw [rms, if_neg (by simpa using nonempty), meanSquare, ← total, ← squares]
  rfl

theorem sq_rms (nonempty : window ≠ []) :
    rms ℝ window ^ 2 = meanSquare window := by
  rw [rms_eq nonempty, Real.sq_sqrt (meanSquare_nonneg window)]

theorem meanSquare_scaled (scale : ℝ) (window : List ℝ) :
    meanSquare (window.map (scale * ·)) = scale ^ 2 * meanSquare window := by
  rw [meanSquare, meanSquare, List.length_map, List.map_map, ← mul_div_assoc,
    ← List.sum_map_mul_left]
  simp only [Function.comp_def, mul_pow]

theorem rms_scaled (positive : 0 < scale) (nonempty : window ≠ []) :
    rms ℝ (window.map (scale * ·)) = scale * rms ℝ window := by
  rw [rms_eq (by simpa using nonempty), rms_eq nonempty, meanSquare_scaled,
    Real.sqrt_mul (sq_nonneg scale), Real.sqrt_sq positive.le]

/-- A window with smaller magnitudes has a smaller mean square. -/
theorem meanSquare_map_le {change other : ℝ → ℝ}
    (below : ∀ sample ∈ window, change sample ^ 2 ≤ other sample ^ 2) :
    meanSquare (window.map change) ≤ meanSquare (window.map other) := by
  rw [meanSquare, meanSquare, List.length_map, List.length_map, List.map_map,
    List.map_map]
  exact div_le_div_of_nonneg_right (List.sum_le_sum below) (Nat.cast_nonneg _)

/-! ## Gains -/

/-- The gain for a root mean square. -/
noncomputable def gainAt (loudness : Loudness ℝ) (rms : ℝ) : ℝ :=
  if rms ≤ loudness.silence then 1
    else min (loudness.target / rms) loudness.maxGain

/-- No window above silence has a root mean square of zero. -/
theorem gain_eq (silence : 0 ≤ loudness.silence) (rms : ℝ) :
    loudness.gain rms = .ok (loudness.gainAt rms) := by
  have asked : Metering.atMost rms loudness.silence =
      .ok (decide (rms ≤ loudness.silence)) := rfl
  rw [gain, gainAt, asked]
  by_cases quiet : rms ≤ loudness.silence
  · rw [if_pos quiet, decide_eq_true quiet]
    rfl
  · have nonzero : rms ≠ 0 := (silence.trans_lt (not_le.mp quiet)).ne'
    have divided :
        Metering.div loudness.target rms = .ok (loudness.target / rms) :=
      if_neg nonzero
    have compared : Metering.less loudness.maxGain (loudness.target / rms) =
        .ok (decide (loudness.maxGain < loudness.target / rms)) := rfl
    rw [if_neg quiet, decide_eq_false quiet]
    change (do
      let wanted ← Metering.div loudness.target rms
      if ← Metering.less loudness.maxGain wanted then pure loudness.maxGain
        else pure wanted) = _
    rw [divided]
    change (do
      if ← Metering.less loudness.maxGain (loudness.target / rms) then
        pure loudness.maxGain
      else pure (loudness.target / rms)) = _
    rw [compared]
    rcases lt_or_ge loudness.maxGain (loudness.target / rms) with
      above | notAbove
    · rw [min_eq_right above.le, decide_eq_true above]
      rfl
    · rw [min_eq_left notAbove, decide_eq_false (not_lt.mpr notAbove)]
      rfl

/-- Every window has a levelled one. -/
theorem normalize_eq (silence : 0 ≤ loudness.silence) (nonempty : window ≠ []) :
    loudness.normalize window =
      .ok (window.map (level (loudness.gainAt (rms ℝ window)))) := by
  rw [normalize, if_neg (by simpa using nonempty)]
  exact bind_eq_ok_iff.mpr ⟨_, gain_eq silence _, rfl⟩

/-! ## Levelled windows -/

/-- Cutting off makes nothing louder. -/
theorem sq_level_le (notNegative : 0 ≤ factor) (sample : ℝ) :
    (level factor sample : ℝ) ^ 2 ≤ (factor * sample) ^ 2 := by
  have magnitude : 0 ≤ |sample| * factor :=
    mul_nonneg (abs_nonneg sample) notNegative
  have cut : level factor sample ≤ |sample| * factor :=
    max_le magnitude (min_le_left _ _)
  calc (level factor sample : ℝ) ^ 2
      ≤ (|sample| * factor) ^ 2 := pow_le_pow_left₀ (le_max_left _ _) cut 2
    _ = (factor * sample) ^ 2 := by rw [mul_pow, mul_pow, sq_abs, mul_comm]

theorem meanSquare_level_le (notNegative : 0 ≤ factor) (window : List ℝ) :
    meanSquare (window.map (level factor)) ≤
      factor ^ 2 * meanSquare window := by
  rw [← meanSquare_scaled]
  exact meanSquare_map_le fun sample _ => sq_level_le notNegative sample

/-- A window above silence that the greatest gain can bring to the target. -/
structure InBand (loudness : Loudness ℝ) (window : List ℝ) : Prop where
  audible : loudness.silence < rms ℝ window
  reached : loudness.target / loudness.maxGain ≤ rms ℝ window

theorem InBand.gainAt_eq (inBand : loudness.InBand window)
    (silence : 0 ≤ loudness.silence) (maxGain : 0 < loudness.maxGain) :
    loudness.gainAt (rms ℝ window) = loudness.target / rms ℝ window := by
  have loud : 0 < rms ℝ window := silence.trans_lt inBand.audible
  rw [gainAt, if_neg (not_le.mpr inBand.audible)]
  exact min_eq_left ((div_le_comm₀ maxGain loud).mp inBand.reached)

/-- The mean square of a levelled window. -/
theorem meanSquare_levelled_le (target : 0 ≤ loudness.target)
    (maxGain : 0 ≤ loudness.maxGain) (silence : 0 ≤ loudness.silence)
    (nonempty : window ≠ []) :
    meanSquare (window.map (level (loudness.gainAt (rms ℝ window)))) ≤
      if rms ℝ window ≤ loudness.silence then loudness.silence ^ 2
        else loudness.target ^ 2 := by
  have notNegative : 0 ≤ rms ℝ window := by
    rw [rms_eq nonempty]
    exact Real.sqrt_nonneg _
  by_cases quiet : rms ℝ window ≤ loudness.silence
  · rw [if_pos quiet, gainAt, if_pos quiet]
    calc meanSquare (window.map (level 1))
        ≤ 1 ^ 2 * meanSquare window := meanSquare_level_le zero_le_one window
      _ = rms ℝ window ^ 2 := by rw [one_pow, one_mul, sq_rms nonempty]
      _ ≤ loudness.silence ^ 2 := pow_le_pow_left₀ notNegative quiet 2
  · have loud : 0 < rms ℝ window := silence.trans_lt (not_le.mp quiet)
    rw [if_neg quiet, gainAt, if_neg quiet]
    have gain : 0 ≤ min (loudness.target / rms ℝ window) loudness.maxGain :=
      le_min (div_nonneg target notNegative) maxGain
    calc meanSquare (window.map
          (level (min (loudness.target / rms ℝ window) loudness.maxGain)))
        ≤ min (loudness.target / rms ℝ window) loudness.maxGain ^ 2 *
            meanSquare window :=
          meanSquare_level_le gain window
      _ ≤ (loudness.target / rms ℝ window) ^ 2 * meanSquare window :=
          mul_le_mul_of_nonneg_right (pow_le_pow_left₀ gain (min_le_left _ _) 2)
            (meanSquare_nonneg window)
      _ = loudness.target ^ 2 := by
          rw [← sq_rms nonempty, ← mul_pow, div_mul_cancel₀ _ loud.ne']

/--
A gain that is smaller by a factor makes up for samples that are larger by it.
-/
theorem level_scaled (positive : 0 < scale) (sample : ℝ) :
    (level (factor / scale) (scale * sample) : ℝ) = level factor sample := by
  have same : |scale * sample| * (factor / scale) = |sample| * factor := by
    rw [abs_mul, abs_of_pos positive]
    field_simp
  change max 0 (min (|scale * sample| * (factor / scale)) 1) =
    max 0 (min (|sample| * factor) 1)
  rw [same]

/--
Every window is levelled, and the root mean square of the result is at most the
target, or at most that of silence where the window is no louder. Two windows in
the band between silence and the greatest gain come out the same when they
differ by their volume only.
-/
theorem exists_levelled (target : 0 ≤ loudness.target)
    (maxGain : 0 ≤ loudness.maxGain) (silence : 0 ≤ loudness.silence)
    (nonempty : window ≠ []) :
    ∃ levelled, loudness.normalize window = .ok levelled ∧
      levelled.length = window.length ∧
      rms ℝ window = √(meanSquare window) ∧
      (loudness.silence < rms ℝ window →
        meanSquare levelled ≤ loudness.target ^ 2) ∧
      (rms ℝ window ≤ loudness.silence →
        meanSquare levelled ≤ loudness.silence ^ 2) ∧
      ∀ scale, 0 < scale → 0 < loudness.maxGain → loudness.InBand window →
        loudness.InBand (window.map (scale * ·)) →
          loudness.normalize (window.map (scale * ·)) = .ok levelled := by
  have bounded := meanSquare_levelled_le target maxGain silence nonempty
  refine ⟨_, normalize_eq silence nonempty, List.length_map _, rms_eq nonempty,
    ?_, ?_, ?_⟩
  · intro audible
    rwa [if_neg (not_le.mpr audible)] at bounded
  · intro quiet
    rwa [if_pos quiet] at bounded
  · intro scale positive some inBand otherInBand
    have scaledNonempty : window.map (scale * ·) ≠ [] := by simpa using nonempty
    have gains : loudness.target / rms ℝ (window.map (scale * ·)) =
        loudness.target / rms ℝ window / scale := by
      rw [rms_scaled positive nonempty, mul_comm, ← div_div]
    rw [normalize_eq silence scaledNonempty, otherInBand.gainAt_eq silence some,
      inBand.gainAt_eq silence some, gains, List.map_map]
    exact congrArg Except.ok (List.map_congr_left fun sample _ =>
      level_scaled positive sample)

/-- A target of an eighth, with gains up to four. -/
noncomputable def soft : Loudness ℝ where
  target := 1 / 8
  maxGain := 4
  silence := 1 / 100

/-- Two samples with a root mean square of a fifth. -/
noncomputable def swing : List ℝ :=
  [1 / 5, -1 / 5]

/-- Twice the volume leaves nothing behind in what comes out. -/
theorem exists_levelled_swing :
    0 ≤ soft.target ∧ 0 ≤ soft.maxGain ∧ 0 ≤ soft.silence ∧ swing ≠ [] ∧
      soft.InBand swing ∧ soft.InBand (swing.map (2 * ·)) ∧
      ∃ levelled, soft.normalize swing = .ok levelled ∧
        levelled = [1 / 8, 1 / 8] ∧
        meanSquare levelled ≤ soft.target ^ 2 ∧
        soft.normalize (swing.map (2 * ·)) = .ok levelled := by
  have target : 0 ≤ soft.target := by norm_num [soft]
  have maxGain : 0 < soft.maxGain := by norm_num [soft]
  have silence : 0 ≤ soft.silence := by norm_num [soft]
  have nonempty : swing ≠ [] := List.cons_ne_nil _ _
  have root : rms ℝ swing = 1 / 5 := by
    have square : meanSquare swing = (1 / 5) ^ 2 := by
      norm_num [meanSquare, swing]
    rw [rms_eq nonempty, square, Real.sqrt_sq (by norm_num)]
  have inBand : soft.InBand swing := by
    constructor <;> rw [root] <;> norm_num [soft]
  have twice : soft.InBand (swing.map (2 * ·)) := by
    constructor <;> rw [rms_scaled two_pos nonempty, root] <;> norm_num [soft]
  rcases exists_levelled target maxGain.le silence nonempty with
    ⟨levelled, normalized, -, -, loud, -, same⟩
  refine ⟨target, maxGain.le, silence, nonempty, inBand, twice, levelled,
    normalized, ?_, loud inBand.audible, same 2 two_pos maxGain inBand twice⟩
  rw [normalize_eq silence nonempty, inBand.gainAt_eq silence maxGain,
    root] at normalized
  rw [← Except.ok.inj normalized]
  norm_num [swing, soft, level, Metering.output, Metering.clip, Metering.mul,
    Metering.abs, abs_of_neg]

end Loudness

end SoundGrid
