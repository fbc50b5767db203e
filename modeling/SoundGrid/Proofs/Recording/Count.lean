import SoundGrid.Proofs.Recording.Window

/-!
# Counting the frames of a sound

The number of frames is the ceiling of a product of doubles: of the length of
the sound in seconds, which is a rounded quotient, and of the frame rate.  Two
roundings move the product less than an exact number of frames that is not whole
is away from the whole numbers, so its ceiling is right.

An exact number that is whole has no such distance.  When the rounded product
lies above it, one frame too many is counted.  This frame begins where the sound
ends, so its window holds nothing but silence.
-/

namespace SoundGrid

namespace Recording

open Number (IsRounding Double.rank?)

variable {recording : Recording} {rate fps : ℕ}

/--
Whether a sound has an exact number of frames and more than this is counted: its
length in seconds is rounded first, and then the product with the frame rate.
-/
def Overshoots (size rate fps : ℕ) : Prop :=
  rate ∣ size * fps ∧ ∃ seconds product : ℝ,
    IsRounding .binary64 (size / rate) seconds ∧
    IsRounding .binary64 (seconds * fps) product ∧
    ((size * fps : ℕ) / rate : ℝ) < product

/--
The length of a sound is the quotient of the doubles for its size and its rate.
-/
theorem duration_eq {rate : ℤ} (isRate : recording.rate = .int rate)
    {sizeDouble rateDouble : Float}
    (sizeFound : Number.Double.ofInt? recording.samples.size = some sizeDouble)
    (rateFound : Number.Double.ofInt? rate = some rateDouble)
    (nonzero : (rateDouble == 0.0) = false) :
    recording.duration = .ok (sizeDouble / rateDouble) := by
  have converted : recording.rate.toDouble = .ok rateDouble := by
    rw [isRate, Number.toDouble, Number.doubleOfInt, rateFound]
  have aligned :
      Number.align (.int recording.samples.size) (.double rateDouble) =
      .ok (.doubles sizeDouble rateDouble) := by
    simp only [Number.align, Number.toDouble, Number.doubleOfInt, sizeFound]
    rfl
  rw [duration, converted]
  change Number.div _ _ = _
  rw [Number.div, aligned]
  change (if (rateDouble == 0.0) = true then _ else _) = _
  rw [nonzero]
  rfl

/-- The number of frames is the ceiling of the rounded product. -/
theorem exists_frameCount (isRate : recording.rate = .int rate)
    (ratePositive : 0 < rate) (rateSmall : rate < 2 ^ 50)
    (fpsSmall : fps < 2 ^ 50) (sizeSmall : recording.samples.size < 2 ^ 50) :
    ∃ seconds product : ℝ, IsRounding .binary64
        (recording.samples.size / rate) seconds ∧
      IsRounding .binary64 (seconds * fps) product ∧
        recording.frameCount (.int fps) = .ok ⌈product⌉ := by
  generalize isSize : recording.samples.size = size at *
  rcases Number.Double.exists_ofInt?_natCast (show size < 2 ^ 53 by omega) with
    ⟨sizeDouble, sizeFound, sizeRanked⟩
  rcases Number.Double.exists_ofInt?_natCast (show rate < 2 ^ 53 by omega) with
    ⟨rateDouble, rateFound, rateRanked⟩
  rcases Number.Double.exists_ofInt?_natCast (show fps < 2 ^ 53 by omega) with
    ⟨fpsDouble, fpsFound, fpsRanked⟩
  have rateReal : (1 : ℝ) ≤ rate := by exact_mod_cast ratePositive
  have sizeReal : (size : ℝ) ≤ 2 ^ 50 := by exact_mod_cast sizeSmall.le
  have fpsReal : (fps : ℝ) ≤ 2 ^ 50 := by exact_mod_cast fpsSmall.le
  have quotient : (0 : ℝ) ≤ size / rate := by positivity
  have short : |(size / rate : ℝ)| ≤ 2 ^ 50 := by
    rw [abs_of_nonneg quotient]
    exact (div_le_self (Nat.cast_nonneg _) rateReal).trans sizeReal
  rcases Number.Double.exists_div sizeRanked rateRanked (by linarith)
      (by decide) short with
    ⟨seconds, secondsRounds, secondsShort, secondsRanked⟩
  have secondsRounding := secondsRounds.isRounding quotient
  have secondsNotNegative := secondsRounding.notNegative
  have few : |seconds * fps| ≤ 2 ^ 100 := by
    rw [abs_mul, Nat.abs_cast]
    calc
      |seconds| * fps ≤ 2 ^ 50 * 2 ^ 50 :=
        mul_le_mul secondsShort fpsReal (Nat.cast_nonneg _) (by positivity)
      _ = 2 ^ 100 := by rw [← pow_add]
  rcases Number.Double.exists_mul secondsRanked fpsRanked (by decide) few with
    ⟨product, productRounds, -, productRanked⟩
  refine ⟨seconds, product, secondsRounding,
    productRounds.isRounding (by positivity), ?_⟩
  have lasting := duration_eq isRate (isSize ▸ sizeFound) rateFound
    (Number.Double.beq_zero_of_pos rateRanked (by linarith))
  have converted : (Number.int fps).toDouble = .ok fpsDouble := by
    rw [Number.toDouble, Number.doubleOfInt, fpsFound]
  refine bind_eq_ok_iff.mpr ⟨_, lasting, bind_eq_ok_iff.mpr ⟨_, converted, ?_⟩⟩
  rw [ceiling, Number.Double.ceiling?_eq productRanked]

/-- The rounded product is not far from the exact number of frames. -/
theorem abs_product_sub_le {size : ℕ} (ratePositive : 0 < rate)
    (rateSmall : rate < 2 ^ 50) (fpsPositive : 0 < fps) {seconds product : ℝ}
    (secondsRounding : IsRounding .binary64 (size / rate) seconds)
    (productRounding : IsRounding .binary64 (seconds * fps) product) :
    |product - ((size * fps : ℕ) : ℝ) / rate| ≤
      ((size * fps : ℕ) : ℝ) / rate / 2 ^ 51 := by
  have rateReal : (0 : ℝ) < rate := by exact_mod_cast ratePositive
  have fpsReal : (1 : ℝ) ≤ fps := by exact_mod_cast fpsPositive
  have exact : (((size * fps : ℕ) : ℝ) / rate : ℝ) = size / rate * fps := by
    push_cast
    ring
  rw [exact]
  rcases Nat.eq_zero_or_pos size with empty | some
  · have zero : IsRounding .binary64 0 0 :=
      Number.Unpacked.isRounding_zero_of_small (le_refl 0) (by positivity)
    rw [empty, Nat.cast_zero, zero_div] at secondsRounding
    rw [secondsRounding.unique zero, zero_mul] at productRounding
    rw [productRounding.unique zero, empty]
    simp
  · refine Number.abs_sub_le_of_roundings ?_ fpsReal secondsRounding
      productRounding
    have someReal : (1 : ℝ) ≤ size := by exact_mod_cast some
    have rateShort : (rate : ℝ) ≤ 2 ^ 50 := by exact_mod_cast rateSmall.le
    calc
      (2 : ℝ) ^ (-1000 : ℤ) ≤ 2 ^ (-50 : ℤ) :=
        zpow_le_zpow_right₀ one_le_two (by omega)
      _ = 1 / 2 ^ 50 := by rw [zpow_neg, one_div]; rfl
      _ ≤ size / rate :=
        div_le_div₀ (Nat.cast_nonneg _) someReal rateReal rateShort

/--
The least number of frames that reaches a length: the last frame begins before
its end.
-/
theorem isLeast_frames_iff {total count : ℕ} :
    IsLeast {frames : ℕ | total ≤ frames * rate} count ↔
      total ≤ count * rate ∧ ∀ last, count = last + 1 →
        last * rate < total := by
  constructor
  · rintro ⟨reaches, least⟩
    refine ⟨reaches, ?_⟩
    rintro last rfl
    by_contra enough
    have atMost : last + 1 ≤ last := least (not_lt.mp enough)
    omega
  · rintro ⟨reaches, before⟩
    refine ⟨reaches, fun frames enough => ?_⟩
    by_contra fewer
    have last := before (count - 1) (by omega)
    have more : frames * rate ≤ (count - 1) * rate :=
      Nat.mul_le_mul_right _ (by omega)
    exact absurd (enough.trans more) (not_le.mpr last)

/--
A count reaches the end of the sound with its last frame, or it is one more than
exact.
-/
theorem exists_count (isRate : recording.rate = .int rate)
    (ratePositive : 0 < rate) (rateSmall : rate < 2 ^ 50)
    (fpsPositive : 0 < fps) (fpsSmall : fps < 2 ^ 50)
    (small : recording.samples.size * fps < 2 ^ 50) :
    ∃ count : ℕ, recording.frameCount (.int fps) = .ok count ∧
      (Overshoots recording.samples.size rate fps →
        count * rate = recording.samples.size * fps + rate) ∧
      (¬ Overshoots recording.samples.size rate fps →
        IsLeast {frames : ℕ | recording.samples.size * fps ≤ frames * rate}
          count) := by
  have sizeSmall : recording.samples.size < 2 ^ 50 :=
    (Nat.le_mul_of_pos_right _ fpsPositive).trans_lt small
  rcases exists_frameCount isRate ratePositive rateSmall fpsSmall sizeSmall with
    ⟨seconds, product, secondsRounding, productRounding, counted⟩
  have near := abs_product_sub_le ratePositive rateSmall fpsPositive
    secondsRounding productRounding
  have overshoots : Overshoots recording.samples.size rate fps ↔
      rate ∣ recording.samples.size * fps ∧
        ((recording.samples.size * fps : ℕ) / rate : ℝ) < product := by
    refine and_congr_right fun _ =>
      ⟨?_, fun above => ⟨_, _, secondsRounding, productRounding, above⟩⟩
    rintro ⟨otherSeconds, otherProduct, otherRounding,
      otherProductRounding, above⟩
    rw [otherRounding.unique secondsRounding] at otherProductRounding
    rwa [otherProductRounding.unique productRounding] at above
  rw [overshoots, counted]
  rcases Number.ceil_eq_of_near ratePositive small near with ⟨low, high⟩
  generalize recording.samples.size * fps = total at *
  by_cases exact : rate ∣ total ∧ product ≤ total / rate
  · refine ⟨total / rate, congrArg Except.ok (low exact), ?_, fun _ =>
      isLeast_frames_iff.mpr ?_⟩
    · rintro ⟨-, above⟩
      exact absurd exact.2 (not_le.mpr above)
    · have whole := Nat.div_mul_cancel exact.1
      refine ⟨whole.ge, ?_⟩
      intro last isLast
      rw [isLast, Nat.succ_mul] at whole
      omega
  · refine ⟨total / rate + 1, congrArg Except.ok (high exact), ?_, ?_⟩
    · rintro ⟨whole, -⟩
      rw [Nat.succ_mul, Nat.div_mul_cancel whole]
    · intro inside
      refine isLeast_frames_iff.mpr ⟨?_, ?_⟩
      · exact (Nat.lt_div_mul_add ratePositive).le.trans_eq
          (Nat.succ_mul _ _).symm
      · rintro last isLast
        rw [← Nat.succ.inj isLast]
        refine lt_of_le_of_ne (Nat.div_mul_le_self total rate) fun whole => ?_
        have divides : rate ∣ total := Dvd.intro_left _ whole
        exact inside ⟨divides, not_le.mp fun notAbove =>
          exact ⟨divides, notAbove⟩⟩

/--
The frames that are counted are the least number that reaches the end of the
sound, except when an exact number is overshot. Then there is one frame more:
the last frame begins inside the sound otherwise, and now it begins where the
sound ends.
-/
theorem frameCount_isLeast_iff (isRate : recording.rate = .int rate)
    (ratePositive : 0 < rate) (rateSmall : rate < 2 ^ 50)
    (fpsPositive : 0 < fps) (fpsSmall : fps < 2 ^ 50)
    (small : recording.samples.size * fps < 2 ^ 50) :
    let size := recording.samples.size
    ∃ count : ℕ, recording.frameCount (.int fps) = .ok count ∧
      (IsLeast {frames : ℕ | size * fps ≤ frames * rate} count ↔
        ¬ Overshoots size rate fps) ∧
      (Overshoots size rate fps → count * rate = size * fps + rate) ∧
      ∀ last, count = last + 1 → ∃ start : ℕ,
        recording.startOf (.int last) (.int fps) = .ok start ∧
          (Overshoots size rate fps → start = size) ∧
          (¬ Overshoots size rate fps → start < size) := by
  intro size
  rcases exists_count isRate ratePositive rateSmall fpsPositive fpsSmall
      small with
    ⟨count, counted, more, least⟩
  have exactLast (overshoots : Overshoots size rate fps) (last : ℕ)
      (isLast : count = last + 1) :
      last * rate = size * fps := by
    have extra := more overshoots
    rw [isLast, Nat.succ_mul] at extra
    exact Nat.add_right_cancel extra
  refine ⟨count, counted, ⟨?_, least⟩, more, ?_⟩
  · intro isLeast overshoots
    have some : 0 < count := Nat.pos_of_ne_zero fun zero => by
      have extra := more overshoots
      rw [zero, Nat.zero_mul] at extra
      omega
    have isLast : count = count - 1 + 1 := by omega
    exact absurd (exactLast overshoots _ isLast)
      ((isLeast_frames_iff.mp isLeast).2 _ isLast).ne
  · intro last isLast
    have early : last * rate ≤ size * fps := by
      by_cases overshoots : Overshoots size rate fps
      · exact (exactLast overshoots last isLast).le
      · exact ((isLeast_frames_iff.mp (least overshoots)).2 last isLast).le
    have fewBits : last * rate < 2 ^ 53 :=
      early.trans_lt (small.trans (by decide))
    refine ⟨last * rate / fps, startOf_eq isRate fpsPositive fewBits, ?_, ?_⟩
    · intro overshoots
      rw [exactLast overshoots last isLast, Nat.mul_div_cancel _ fpsPositive]
    · intro inside
      have before := (isLeast_frames_iff.mp (least inside)).2 last isLast
      exact (Nat.div_lt_iff_lt_mul fpsPositive).mpr before

/-- Seven samples at a hundred a second. -/
def seven : Recording :=
  ⟨.wide, (List.replicate 7 (.wide 0.5)).toArray, .int 100⟩

/--
At thirty frames a second they have two and a tenth frames, and three are
counted.
-/
theorem frameCount_isLeast_seven :
    seven.rate = .int (100 : ℕ) ∧ 0 < 100 ∧ 100 < 2 ^ 50 ∧ 0 < 30 ∧
      30 < 2 ^ 50 ∧ seven.samples.size * 30 < 2 ^ 50 ∧
        ∃ count : ℕ, seven.frameCount (.int (30 : ℕ)) = .ok count ∧
          IsLeast {frames : ℕ | seven.samples.size * 30 ≤ frames * 100}
            count := by
  have small : seven.samples.size * 30 < 2 ^ 50 := by decide
  rcases frameCount_isLeast_iff (show seven.rate = .int (100 : ℕ) from rfl)
    (by decide) (by decide) (show 0 < 30 by decide)
    (by decide) small with ⟨count, counted, isLeast, -⟩
  have exact : ¬ Overshoots seven.samples.size 100 30 := fun overshoots =>
    absurd overshoots.1 (by decide)
  exact ⟨rfl, by decide, by decide, by decide, by decide, small, count, counted,
    isLeast.mpr exact⟩

/--
At a hundred frames a second they have seven frames exactly, but eight are
counted, and the eighth begins where the sound ends.
-/
theorem exists_frameCount_not_isLeast :
    ∃ recording : Recording, recording.rate = .int (100 : ℕ) ∧
      recording.samples.size = 7 ∧
      recording.frameCount (.int (100 : ℕ)) = .ok 8 ∧
      ¬ IsLeast {frames : ℕ | recording.samples.size * 100 ≤ frames * 100} 8 ∧
        recording.startOf (.int 7) (.int 100) = .ok 7 := by
  refine ⟨seven, rfl, rfl, eq_ok_of_toOption (by decide +kernel), ?_,
    eq_ok_of_toOption (by decide +kernel)⟩
  intro isLeast
  exact absurd ((isLeast_frames_iff.mp isLeast).2 7 rfl) (by decide)

end Recording

end SoundGrid
