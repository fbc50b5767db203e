import SoundGrid.Proofs.Loudness.Total
import SoundGrid.Proofs.Number.Magnitude
import SoundGrid.Signal.Format

/-!
# Levelling with rounding

A window of finite doubles has a root mean square that is not negative, infinite
perhaps but no NaN. The gain divides by it only where it is above silence, hence
above zero, and the greatest gain keeps what is wanted finite. So every window
is levelled, and since rounding keeps the order, so do levelled samples.
-/

namespace SoundGrid

open Number

/-! ## Comparisons -/

namespace Sample

variable {given other : Datum} {first second : Number}

/-- Plain numbers are compared as numbers. -/
theorem less_eq (isFirst : given.number? = some first)
    (isSecond : other.number? = some second) :
    less (.plain given) (.plain other) = .ok (first.isBelow second) := by
  have before : given.before? other = Datum.numberBefore? first other := by
    cases given with
    | null | text | list | record => cases isFirst
    | bool | int | double | undefined =>
        cases isFirst
        rfl
  rw [less, before, Datum.numberBefore?, isSecond]
  rfl

theorem lessOrSame_eq (value : Float) (isSecond : other.number? = some second) :
    lessOrSame (ofDouble value) (.plain other) =
      .ok ((Number.double value).isAtMost second) := by
  have before : (Datum.double value).before? other =
      some ((Number.double value).isBelow second) := by
    rw [Datum.before?, Datum.numberBefore?, isSecond]
    rfl
  have same :
      (Datum.double value).same other = (Number.double value).same second := by
    rw [Datum.same, Datum.sameNumber, isSecond]
  rw [lessOrSame, before, same, isAtMost_eq]

/-- A plain number that is a magnitude. -/
def IsMagnitude (sample : Sample) : Prop :=
  ∃ given number double, sample = .plain given ∧ given.number? = some number ∧
    number.IsMagnitude double

end Sample

namespace Loudness

/-- Parameters that are magnitudes. -/
structure HasMagnitudes (loudness : Loudness Sample) : Prop where
  target : loudness.target.IsMagnitude
  maxGain : loudness.maxGain.IsMagnitude
  silence : loudness.silence.IsMagnitude

theorem standard_hasMagnitudes : standard.HasMagnitudes where
  target := ⟨_, _, _, rfl, rfl, by decide +kernel, rfl, by decide +kernel⟩
  maxGain := ⟨_, _, _, rfl, rfl, by decide +kernel, rfl, by decide +kernel⟩
  silence := ⟨_, _, _, rfl, rfl, by decide +kernel, rfl, by decide +kernel⟩

variable {loudness : Loudness Sample} {window : List Float}

/-! ## Root mean squares -/

/-- The double for the length of a window. -/
theorem exists_rank?_count {count : ℕ} (positive : 0 < count)
    (few : count < countLimit) :
    ∃ real : ℝ, Double.rank? (Double.ofNat count) = some (real : EReal) ∧
      0 < real := by
  have limit : countLimit = 2 ^ 63 := by decide
  rw [limit] at few
  exact Double.exists_rank?_ofNat positive (by decide) few.le

/-- A window of finite doubles has a root mean square. -/
theorem zero_le_rms (few : window.length < countLimit)
    (finite : ∀ sample ∈ window, sample.isFinite = true) :
    0.0 ≤ rms Sample window := by
  rw [rms]
  split
  · decide +kernel
  · next nonempty =>
    have positive : 0 < window.length := by
      rw [List.isEmpty_iff] at nonempty
      exact List.length_pos_iff.mpr nonempty
    have zero : (0.0 : Float) ≤ 0.0 := by decide +kernel
    have squares : ∀ square ∈ (window.map fun sample => sample * sample),
        0.0 ≤ square := by
      intro square member
      rcases List.mem_map.mp member with ⟨sample, isSample, rfl⟩
      rcases Double.exists_real_of_isFinite (finite sample isSample) with
        ⟨real, ranked, -⟩
      exact Double.zero_le_mul ranked ranked (mul_self_nonneg real)
    have isTotal :
        IsTotal (· + ·) (0.0 : Float) (window.map fun sample => sample * sample)
        (pairwiseSum (· + ·) 0.0 (window.map fun sample => sample * sample)) :=
      isTotal_pairwiseSum _
    have total := isTotal.closed squares zero fun _ _ => Double.zero_le_add
    rcases exists_rank?_count positive few with
      ⟨count, countRanked, countPositive⟩
    have above : 0.0 < Double.ofNat window.length :=
      Double.zero_lt_iff.mpr ⟨count, countRanked,
        EReal.coe_pos.mpr countPositive⟩
    exact Double.zero_le_sqrt
      (Double.zero_le_div total above
        (Or.inr (Double.isFinite_of_rank? countRanked)))

/-! ## Gains -/

/-- What is not at most some magnitude is above zero. -/
theorem zero_lt_of_not_isAtMost {value bound : Float} {number : Number}
    (notNegative : 0.0 ≤ value) (magnitude : number.IsMagnitude bound)
    (above : (Number.double value).isAtMost number = false) : 0.0 < value := by
  rcases Double.zero_le_iff.mp notNegative with ⟨rank, ranked, -⟩
  rcases magnitude.exists_rank? with ⟨real, boundRanked, atLeast⟩
  have numberRanked : (Number.double value).rank? = some rank := ranked
  refine Double.zero_lt_iff.mpr
    ⟨rank, ranked, (EReal.coe_nonneg.mpr atLeast).trans_lt ?_⟩
  by_contra notAbove
  rw [isAtMost_iff.mpr ⟨rank, real, numberRanked, boundRanked,
    not_lt.mp notAbove⟩] at above
  cases above

/-- What no magnitude is below is finite. -/
theorem exists_rank?_of_not_isBelow {value bound : Float} {number : Number}
    (notNegative : 0.0 ≤ value) (magnitude : number.IsMagnitude bound)
    (notAbove : number.isBelow (.double value) = false) :
    ∃ real : ℝ, Double.rank? value = some (real : EReal) ∧ 0 ≤ real := by
  rcases Double.zero_le_iff.mp notNegative with ⟨rank, ranked, atLeast⟩
  rcases magnitude.exists_rank? with ⟨limit, limitRanked, -⟩
  have numberRanked : (Number.double value).rank? = some rank := ranked
  have atMost : rank ≤ (limit : EReal) := by
    by_contra above
    rw [isBelow_iff.mpr ⟨limit, rank, limitRanked, numberRanked,
      not_le.mp above⟩] at notAbove
    cases notAbove
  induction rank with
  | bot => exact absurd atLeast (not_le.mpr EReal.bot_lt_zero)
  | coe real => exact ⟨real, ranked, EReal.coe_nonneg.mp atLeast⟩
  | top => exact absurd atMost (not_le.mpr (EReal.coe_lt_top limit))

/-- A plain magnitude is divided as a double. -/
theorem divide_eq {given : Datum} {number : Number} {double divisor : Float}
    (isNumber : given.number? = some number)
    (magnitude : number.IsMagnitude double) (positive : 0.0 < divisor) :
    divide (.plain given) (Sample.ofDouble divisor) =
      .ok (Sample.ofDouble (double / divisor)) := by
  rw [divide, isNumber]
  change (number.div (.double divisor)).map Sample.ofDouble = _
  rw [magnitude.div_eq (Double.beq_zero_of_zero_lt positive)]
  rfl

theorem gain_of_silent {rms : Sample}
    (silent : rms.lessOrSame loudness.silence = .ok true) :
    loudness.gain rms = .ok (Sample.ofDouble 1.0) :=
  bind_eq_ok_iff.mpr ⟨true, silent, rfl⟩

theorem gain_of_audible {rms wanted : Sample} {above : Bool}
    (audible : rms.lessOrSame loudness.silence = .ok false)
    (divided : divide loudness.target rms = .ok wanted)
    (compared : loudness.maxGain.less wanted = .ok above) :
    loudness.gain rms = .ok (if above then loudness.maxGain else wanted) := by
  refine bind_eq_ok_iff.mpr ⟨false, audible, bind_eq_ok_iff.mpr
    ⟨wanted, divided, bind_eq_ok_iff.mpr ⟨above, compared, ?_⟩⟩⟩
  cases above <;> rfl

/--
There is a gain for every root mean square, and it multiplies by a finite
double.
-/
theorem exists_gain (magnitudes : loudness.HasMagnitudes) {rms : Float}
    (notNegative : 0.0 ≤ rms) :
    ∃ gain factor, loudness.gain (Sample.ofDouble rms) = .ok gain ∧
      multiplier gain = .ok factor ∧
      ∃ real : ℝ, Double.rank? factor = some (real : EReal) ∧ 0 ≤ real := by
  rcases magnitudes.target with
    ⟨given, wanted, target, isTarget, isWanted, targetMagnitude⟩
  rcases magnitudes.maxGain with
    ⟨most, greatest, limit, isMaxGain, isGreatest, limitMagnitude⟩
  rcases magnitudes.silence with
    ⟨low, quiet, floor, isSilence, isQuiet, floorMagnitude⟩
  have heard : (Sample.ofDouble rms).lessOrSame loudness.silence =
      .ok ((Number.double rms).isAtMost quiet) := by
    rw [isSilence, Sample.lessOrSame_eq rms isQuiet]
  cases isSilent : (Number.double rms).isAtMost quiet with
  | true =>
      rw [isSilent] at heard
      refine ⟨_, 1.0, gain_of_silent heard, rfl, _, Double.rank?_one, ?_⟩
      norm_num
  | false =>
      rw [isSilent] at heard
      -- Silence is not negative, so what is louder than silence is no divisor
      -- of zero.
      have positive :=
        zero_lt_of_not_isAtMost notNegative floorMagnitude isSilent
      have divided : divide loudness.target (Sample.ofDouble rms) =
          .ok (Sample.ofDouble (target / rms)) := by
        rw [isTarget, divide_eq isWanted targetMagnitude positive]
      have compared : loudness.maxGain.less (Sample.ofDouble (target / rms)) =
          .ok (greatest.isBelow (.double (target / rms))) := by
        rw [isMaxGain]
        exact Sample.less_eq isGreatest rfl
      cases isBelow : greatest.isBelow (.double (target / rms)) with
      | true =>
          rw [isBelow] at compared
          refine ⟨_, limit, gain_of_audible heard divided compared, ?_,
            Double.exists_rank?_of_zero_le limitMagnitude.zero_le
              limitMagnitude.finite⟩
          rw [if_pos rfl, isMaxGain, multiplier, isGreatest]
          exact limitMagnitude.converted
      | false =>
          rw [isBelow] at compared
          have quotient : 0.0 ≤ target / rms :=
            Double.zero_le_div targetMagnitude.zero_le positive
              (Or.inl targetMagnitude.finite)
          exact ⟨_, target / rms, gain_of_audible heard divided compared, rfl,
            exists_rank?_of_not_isBelow quotient limitMagnitude isBelow⟩

/-! ## Levelled samples -/

theorem clipDouble_eq {value : Float} (notNegative : 0.0 ≤ value) :
    clipDouble value = if 1.0 < value then 1.0 else value :=
  if_neg (Double.not_lt_of_le notNegative)

theorem clipDouble_mem {value : Float} (notNegative : 0.0 ≤ value) :
    0.0 ≤ clipDouble value ∧ clipDouble value ≤ 1.0 := by
  rw [clipDouble_eq notNegative]
  by_cases large : 1.0 < value
  · rw [if_pos large]
    decide +kernel
  · rw [if_neg large]
    exact ⟨notNegative, Double.le_one_of_not_lt notNegative large⟩

/-- Cutting off keeps the order. -/
theorem clipDouble_mono {lower upper : Float} (notNegative : 0.0 ≤ lower)
    (ordered : lower ≤ upper) : clipDouble lower ≤ clipDouble upper := by
  have upperNotNegative := Double.le_trans notNegative ordered
  by_cases large : 1.0 < upper
  · rw [clipDouble_eq upperNotNegative, if_pos large]
    exact (clipDouble_mem notNegative).2
  · have within := Double.le_one_of_not_lt upperNotNegative large
    have lowerWithin := Double.not_lt_of_le (Double.le_trans ordered within)
    rwa [clipDouble_eq upperNotNegative, if_neg large,
      clipDouble_eq notNegative, if_neg lowerWithin]

/-- The single that a sample is levelled to. -/
def singleLevel (factor sample : Float) : Float32 :=
  Single.ofDouble (clipDouble (sample.abs * factor))

section Level

variable {factor first second : Float} {real : ℝ}

theorem zero_le_magnitude_mul
    (ranked : Double.rank? factor = some (real : EReal))
    (notNegative : 0 ≤ real) (finite : first.isFinite = true) :
    0.0 ≤ first.abs * factor := by
  rcases Double.exists_real_of_isFinite finite with ⟨value, firstRanked, -⟩
  exact Double.zero_le_mul (Double.rank?_abs firstRanked) ranked
    (mul_nonneg (abs_nonneg value) notNegative)

theorem inUnit_singleLevel (ranked : Double.rank? factor = some (real : EReal))
    (notNegative : 0 ≤ real) (finite : first.isFinite = true) :
    Single.InUnit (singleLevel factor first) := by
  have bounds :=
    clipDouble_mem (zero_le_magnitude_mul ranked notNegative finite)
  exact Single.inUnit_ofDouble bounds.1 bounds.2

theorem singleLevel_mono (ranked : Double.rank? factor = some (real : EReal))
    (notNegative : 0 ≤ real) (firstFinite : first.isFinite = true)
    (secondFinite : second.isFinite = true) (ordered : first.abs ≤ second.abs) :
    Single.toDouble (singleLevel factor first) ≤
      Single.toDouble (singleLevel factor second) := by
  rcases Double.exists_real_of_isFinite firstFinite with ⟨x, firstRanked, -⟩
  rcases Double.exists_real_of_isFinite secondFinite with ⟨y, secondRanked, -⟩
  have products := Double.mul_le_mul (Double.rank?_abs firstRanked)
    (Double.rank?_abs secondRanked) ranked notNegative ordered
  exact Single.toDouble_ofDouble_mono
    (clipDouble_mono (zero_le_magnitude_mul ranked notNegative firstFinite)
      products)

end Level

/--
What levelling makes of a window: as many singles, none of them outside the unit
interval, in the order of the magnitudes.
-/
structure Levels (window : List Float) (levelled : List Float32) : Prop where
  length : levelled.length = window.length
  inUnit : ∀ value ∈ levelled, Single.InUnit value
  ordered : ∀ quiet ∈ window.zip levelled, ∀ loud ∈ window.zip levelled,
    quiet.1.abs ≤ loud.1.abs → Single.toDouble quiet.2 ≤ Single.toDouble loud.2

/-- Every window of finite doubles is levelled. -/
theorem exists_levels (magnitudes : loudness.HasMagnitudes)
    (nonempty : window ≠ []) (few : window.length < countLimit)
    (finite : ∀ sample ∈ window, sample.isFinite = true) :
    ∃ levelled, loudness.normalize window = .ok (levelled.map .single) ∧
      Levels window levelled := by
  rcases exists_gain magnitudes (zero_le_rms few finite) with
    ⟨gain, factor, gained, multiplied, real, ranked, notNegative⟩
  refine ⟨window.map (singleLevel factor), ?_, List.length_map _, ?_, ?_⟩
  · rw [normalize, if_neg (by simpa using nonempty), List.map_map]
    exact bind_eq_ok_iff.mpr ⟨gain, gained,
      bind_eq_ok_iff.mpr ⟨factor, multiplied, rfl⟩⟩
  · intro value member
    rcases List.mem_map.mp member with ⟨sample, isSample, rfl⟩
    exact inUnit_singleLevel ranked notNegative (finite sample isSample)
  · have own {pair : Float × Float32}
        (member : pair ∈ window.zip (window.map (singleLevel factor))) :
        pair.1 ∈ window ∧ pair.2 = singleLevel factor pair.1 := by
      rw [← List.map_prod_left_eq_zip] at member
      rcases List.mem_map.mp member with ⟨sample, isSample, rfl⟩
      exact ⟨isSample, rfl⟩
    intro quiet quietMember loud loudMember ordered
    rcases own quietMember with ⟨quietSample, quietLevel⟩
    rcases own loudMember with ⟨loudSample, loudLevel⟩
    rw [quietLevel, loudLevel]
    exact singleLevel_mono ranked notNegative (finite _ quietSample)
      (finite _ loudSample) ordered

/-! ## Signs -/

/-- Windows that differ by the signs of some samples. -/
def SameMagnitudes (window other : List Float) : Prop :=
  List.Forall₂ (fun sample flipped => flipped = sample ∨ flipped = -sample)
    window other

theorem SameMagnitudes.map_eq {other : List Float}
    (same : SameMagnitudes window other) {Result : Type}
    {change : Float → Result}
    (even : ∀ sample, change (-sample) = change sample) :
    other.map change = window.map change := by
  induction same with
  | nil => rfl
  | cons flipped _ ih =>
      rw [List.map_cons, List.map_cons, ih]
      rcases flipped with rfl | rfl
      · rfl
      · rw [even]

/-- Signs make no difference, whatever the window and the parameters are. -/
theorem SameMagnitudes.normalize_eq {other : List Float}
    (same : SameMagnitudes window other) (loudness : Loudness Sample) :
    loudness.normalize other = loudness.normalize window := by
  have squares : (other.map fun sample => sample * sample) =
      window.map fun sample => sample * sample :=
    same.map_eq Double.neg_mul_neg
  have levels (factor : Float) :
      other.map (level factor : Float → Sample) =
        window.map (level factor) := by
    refine same.map_eq fun sample => ?_
    change Sample.single (singleLevel factor (-sample)) =
      .single (singleLevel factor sample)
    rw [singleLevel, Double.abs_neg, singleLevel]
  have length : other.length = window.length := same.length_eq.symm
  have empty : other.isEmpty = window.isEmpty := by
    cases same <;> rfl
  have root : rms Sample other = rms Sample window := by
    have computed (samples : List Float) : rms Sample samples =
        if samples.isEmpty then 0.0
        else Float.sqrt
          (pairwiseSum (· + ·) 0.0 (samples.map fun sample => sample * sample) /
            Double.ofNat samples.length) := rfl
    rw [computed, computed, squares, length, empty]
  simp only [normalize, empty, root, levels]

end Loudness

end SoundGrid
