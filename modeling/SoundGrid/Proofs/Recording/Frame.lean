import SoundGrid.Proofs.Recording.Count
import SoundGrid.Recording.Wave

/-!
# Frames of a loaded recording

A recording of which the bytes can be counted is short enough for its length in
seconds to be a double, and what a wave file holds is such a recording.  Whether
its frames can be counted depends on the frame rate alone: the rate needs a
nearest double, and the product with the length must not be infinite.

Every frame that is counted has a time and a first sample.  For a high rate this
is so because the number of frames is a finite double, for a low one because the
sound is short; in both cases the quotient by the rate stays within the doubles.
Its window can be filled up with silence unless it has too many bytes.
-/

namespace SoundGrid

/-! ## Loaded recordings -/

/--
A recording as it is loaded: singles at the one rate, of which the bytes can be
counted.
-/
structure Recording.IsLoaded (recording : Recording) : Prop where
  format : recording.format = .single
  rate : recording.rate = .int Wave.recordingRate
  samples : ∀ sample ∈ recording.samples, ∃ value, sample = .single value
  few : recording.samples.size * 4 < countLimit

namespace Recording

variable {recording : Recording}

theorem IsLoaded.bytes (loaded : recording.IsLoaded) :
    recording.format.bytes = 4 := by
  rw [loaded.format]
  rfl

/-- Its samples are an array. -/
theorem IsLoaded.isArray (loaded : recording.IsLoaded) : recording.IsArray where
  format := by
    rw [loaded.format]
    decide
  samples sample member := by
    rcases loaded.samples sample member with ⟨value, rfl⟩
    rw [loaded.format]
    exact .single value
  few := by
    rw [loaded.bytes]
    exact loaded.few

end Recording

namespace Wave

theorem ofBytes_lt (bytes : List UInt8) :
    ofBytes bytes < 256 ^ bytes.length := by
  induction bytes with
  | nil => exact Nat.one_pos
  | cons byte rest ih =>
      have small : byte.toNat < 256 := byte.toNat_lt
      rw [ofBytes, List.length_cons, Nat.pow_succ]
      omega

/-- The length of a chunk is written in four bytes. -/
theorem length_of_findChunk {name bytes content : List UInt8} {fuel : Nat}
    (found : findChunk name fuel bytes = some content) :
    content.length < 2 ^ 32 := by
  induction fuel generalizing bytes with
  | zero => cases found
  | succ fuel ih =>
      rw [findChunk] at found
      split at found
      · cases found
      · dsimp only at found
        split at found
        · cases found
          have written := ofBytes_lt ((bytes.drop 4).take 4)
          have short : 256 ^ ((bytes.drop 4).take 4).length ≤ 256 ^ 4 :=
            Nat.pow_le_pow_right (by omega) (List.length_take_le 4 _)
          have taken :=
            List.length_take_le (ofBytes ((bytes.drop 4).take 4)) (bytes.drop 8)
          omega
        · exact ih found

theorem length_samplesOf_le (bytes : List UInt8) :
    (samplesOf bytes).length ≤ bytes.length := by
  induction bytes using samplesOf.induct with
  | case1 low high rest ih =>
      simp only [samplesOf, List.length_cons]
      omega
  | case2 bytes short =>
      rw [samplesOf]
      · exact Nat.zero_le _
      · exact short

theorem length_mix_le (channels fuel : Nat) (samples : List Int) :
    (mix channels fuel samples).length ≤ fuel := by
  induction fuel generalizing samples with
  | zero => exact Nat.le_refl 0
  | succ fuel ih =>
      simp only [mix]
      split
      · exact Nat.zero_le _
      · rw [List.length_cons]
        exact Nat.succ_le_succ (ih _)

theorem length_of_decode? {bytes : List UInt8} {wave : Wave}
    (decoded : decode? bytes = some wave) : wave.samples.length < 2 ^ 32 := by
  simp only [decode?, Option.bind_eq_bind, Option.bind_eq_some_iff,
    Option.pure_def, Option.some.injEq] at decoded
  rcases decoded with ⟨-, -, format, -, data, found, -, -, -, -, -, -, rfl⟩
  exact (length_samplesOf_le data).trans_lt (length_of_findChunk found)

theorem isLoaded_of_load {bytes : List UInt8} {recording : Recording}
    (loaded : load bytes = .ok recording) : recording.IsLoaded := by
  rw [load] at loaded
  cases decoded : decode? bytes with
  | none =>
      rw [decoded] at loaded
      cases loaded
  | some wave =>
      rw [decoded] at loaded
      dsimp only at loaded
      split at loaded
      · next rate =>
        cases loaded
        refine ⟨rfl, congrArg (fun rate : Nat => Number.int rate) rate, ?_, ?_⟩
        · intro sample member
          rcases List.mem_map.mp (List.mem_toArray.mp member) with
            ⟨value, -, rfl⟩
          exact ⟨value, rfl⟩
        · rw [toRecording, List.size_toArray, List.length_map]
          have short := (length_mix_le wave.channels wave.samples.length
                wave.samples).trans_lt
            (length_of_decode? decoded)
          have limit : 2 ^ 34 < countLimit := by decide
          omega
      · cases loaded

end Wave

namespace Recording

open Number (Double.rank?)
open Number.Unpacked (RoundsTo)

variable {recording : Recording}

/-! ## Counting frames -/

/--
The length of a loaded recording is a double, with fewer seconds than there are
samples.
-/
theorem IsLoaded.exists_duration (loaded : recording.IsLoaded) :
    ∃ (duration : Float) (real : ℝ), recording.duration = .ok duration ∧
      Double.rank? duration = some (real : EReal) ∧ |real| ≤ 2 ^ 61 := by
  have few : |((recording.samples.size : ℤ) : ℝ)| ≤ 2 ^ 61 := by
    have limit : countLimit = 2 ^ 61 * 4 := by decide
    have counted := loaded.few
    have size : recording.samples.size ≤ 2 ^ 61 := by omega
    rw [Int.cast_natCast, abs_of_nonneg (Nat.cast_nonneg _)]
    exact_mod_cast size
  have known : |((Wave.recordingRate : ℤ) : ℝ)| ≤ 2 ^ 15 := by
    norm_num [Wave.recordingRate]
  rcases Number.Double.exists_ofInt? (by decide) few with
    ⟨size, nearest, -, sizeBound, found, sizeRanked⟩
  rcases Number.Double.exists_ofInt? (by decide) known with
    ⟨rate, nearestRate, rounds, -, rateFound, rateRanked⟩
  have atLeast : (1 : ℝ) ≤ rate := by
    have positive : ((2 ^ 0 : ℝ) : EReal) ≤ rate :=
      rounds.two_pow_le (by decide) (by norm_num [Wave.recordingRate])
    rw [pow_zero] at positive
    exact EReal.coe_le_coe_iff.mp positive
  have nonzero := Number.Double.beq_zero_of_pos rateRanked (by linarith)
  have short : |size / rate| ≤ 2 ^ 61 := by
    rw [abs_div, abs_of_nonneg (by linarith : (0 : ℝ) ≤ rate)]
    exact (div_le_self (abs_nonneg size) atLeast).trans sizeBound
  rcases Number.Double.exists_div sizeRanked rateRanked (by linarith)
      (by decide) short with
    ⟨real, -, bounded, ranked⟩
  have lasting := duration_eq loaded.rate found rateFound nonzero
  exact ⟨nearest / nearestRate, real, lasting, ranked, bounded⟩

/--
Frames can be counted when the rate has a nearest double and not too many fit
the length.
-/
theorem exists_frameCount_iff {rate : ℤ} :
    (∃ count, recording.frameCount (.int rate) = .ok count) ↔
      ∃ duration nearest, recording.duration = .ok duration ∧
        Number.Double.ofInt? rate = some nearest ∧
        (duration * nearest).isFinite = true := by
  simp only [frameCount, bind_eq_ok_iff, Number.toDouble, Number.doubleOfInt,
    ceiling, Number.Double.ceiling?, Number.Double.isFinite_iff_scaled?]
  constructor
  · rintro ⟨count, duration, lasting, nearest, converted, counted⟩
    refine ⟨duration, nearest, lasting, ?_⟩
    split at converted
    · next found =>
      cases converted
      split at counted
      · next whole =>
          exact ⟨found, (Option.map_eq_some_iff.mp whole).imp fun _ => And.left⟩
      · cases counted
    · cases converted
  · rintro ⟨duration, nearest, lasting, found, exact, isExact⟩
    refine ⟨exact.ceiling, duration, lasting, nearest, ?_, ?_⟩
    · rw [found]
    · rw [isExact]
      rfl

/--
A frame that is counted is not very far from the beginning, as measured in
seconds.
-/
theorem IsLoaded.frame_le (loaded : recording.IsLoaded) {rate : ℤ}
    (positive : 0 < rate) {count : ℤ}
    (counted : recording.frameCount (.int rate) = .ok count) {index : ℕ}
    (inside : (index : ℤ) < count) : (index : ℝ) ≤ 2 ^ 1004 * rate := by
  rcases loaded.exists_duration with
    ⟨duration, length, lasting, durationRanked, short⟩
  rcases exists_frameCount_iff.mp ⟨count, counted⟩ with
    ⟨_, nearest, again, found, finite⟩
  rw [lasting] at again
  cases again
  rcases Number.Double.exists_real_of_isFinite finite with
    ⟨product, productRanked, range⟩
  have atMost : (index : ℝ) < product := by
    have ceiled : count = ⌈product⌉ := by
      simp only [frameCount, bind_eq_ok_iff, Number.toDouble,
        Number.doubleOfInt, lasting, Except.ok.injEq, exists_eq_left', found,
        ceiling, Number.Double.ceiling?_eq productRanked] at counted
      exact counted.symm
    rw [ceiled, Int.lt_ceil, Int.cast_natCast] at inside
    exact inside
  have one : (1 : ℝ) ≤ rate := by exact_mod_cast positive
  by_cases high : (2 : ℝ) ^ 20 ≤ rate
  · calc
      (index : ℝ) ≤ |product| := atMost.le.trans (le_abs_self product)
      _ ≤ 2 ^ 1004 * 2 ^ 20 := by
        rw [← pow_add]
        exact range.le
      _ ≤ 2 ^ 1004 * rate := mul_le_mul_of_nonneg_left high (by positivity)
  · have low : |(rate : ℝ)| ≤ 2 ^ 20 := by
      rw [abs_of_pos (by linarith)]
      exact (not_le.mp high).le
    rcases Number.Double.exists_ofInt? (by decide) low with
      ⟨real, _, -, few, again, rateRanked⟩
    rw [found] at again
    cases again
    have bounded : |length * real| ≤ 2 ^ 81 := by
      rw [abs_mul]
      calc
        |length| * |real| ≤ 2 ^ 61 * 2 ^ 20 := by gcongr
        _ = 2 ^ 81 := by rw [← pow_add]
    rcases Number.Double.exists_mul durationRanked rateRanked
        (by decide) bounded with
      ⟨same, -, small, sameRanked⟩
    rw [productRanked] at sameRanked
    rw [← EReal.coe_eq_coe_iff.mp (Option.some.inj sameRanked)] at small
    calc
      (index : ℝ) ≤ |product| := atMost.le.trans (le_abs_self product)
      _ ≤ 2 ^ 81 := small
      _ ≤ 2 ^ 1004 := pow_le_pow_right₀ one_le_two (by omega)
      _ ≤ 2 ^ 1004 * rate := le_mul_of_one_le_right (by positivity) one

/-! ## Times -/

section Times

variable {rate count : ℤ} {index : ℕ}

/--
A small multiple of the index of such a frame has a finite quotient by the rate.
-/
theorem IsLoaded.exists_div (loaded : recording.IsLoaded) (positive : 0 < rate)
    (counted : recording.frameCount (.int rate) = .ok count)
    (inside : (index : ℤ) < count) {factor : ℕ} (few : factor ≤ 2 ^ 15) :
    ∃ quotient, Number.div (.int (index * factor)) (.int rate) = .ok quotient ∧
      quotient.isFinite = true := by
  have rateReal : (0 : ℝ) < rate := by exact_mod_cast positive
  have fewReal : (factor : ℝ) ≤ 2 ^ 15 := by exact_mod_cast few
  have bounded : |(((index * factor : ℤ) : ℝ) / rate)| ≤ 2 ^ 1019 := by
    push_cast
    rw [abs_of_nonneg (by positivity), div_le_iff₀ rateReal]
    calc
      (index : ℝ) * factor ≤ 2 ^ 1004 * rate * 2 ^ 15 :=
        mul_le_mul (loaded.frame_le positive counted inside) fewReal
          (by positivity) (by positivity)
      _ = 2 ^ 1019 * rate := by
        rw [mul_right_comm, ← pow_add]
  rcases Number.Double.exists_ofQuotient? _ positive.ne'
      (by decide) bounded with
    ⟨real, quotient, -, -, found, ranked⟩
  refine ⟨quotient, ?_, Number.Double.isFinite_of_rank? ranked⟩
  change (if rate = 0 then _ else _) = _
  rw [if_neg positive.ne', found]
  rfl

/-- The frame has a time. -/
theorem IsLoaded.exists_time (loaded : recording.IsLoaded) (positive : 0 < rate)
    (counted : recording.frameCount (.int rate) = .ok count)
    (inside : (index : ℤ) < count) :
    ∃ time, Number.div (.int index) (.int rate) = .ok time := by
  have one : 1 ≤ 2 ^ 15 := by omega
  rcases loaded.exists_div positive counted inside one with ⟨time, found, -⟩
  rw [Nat.cast_one, mul_one] at found
  exact ⟨time, found⟩

/-- The frame has a first sample. -/
theorem IsLoaded.exists_startOf
    (loaded : recording.IsLoaded) (positive : 0 < rate)
    (counted : recording.frameCount (.int rate) = .ok count)
    (inside : (index : ℤ) < count) :
    ∃ start, recording.startOf (.int index) (.int rate) = .ok start := by
  have known : Wave.recordingRate ≤ 2 ^ 15 := by decide
  rcases loaded.exists_div positive counted inside known with
    ⟨position, found, finite⟩
  rcases Number.Double.isFinite_iff_scaled?.mp finite with ⟨exact, isExact⟩
  refine ⟨exact.truncate,
    bind_eq_ok_iff.mpr ⟨.int (index * Wave.recordingRate), ?_, ?_⟩⟩
  · rw [loaded.rate]
    rfl
  · refine bind_eq_ok_iff.mpr ⟨position, found, ?_⟩
    rw [Number.whole, Number.Double.truncate?, isExact]
    rfl

end Times

/-! ## Windows -/

/-- The samples between two positions are samples of the recording. -/
theorem mem_of_mem_between {start stop : ℤ} {sample : Sample}
    (member : sample ∈ recording.between start stop) :
    sample ∈ recording.samples := by
  rw [between, Array.mem_extract_iff_getElem] at member
  rcases member with ⟨position, inside, rfl⟩
  exact Array.getElem_mem _

/-- There are no more of them than lie between the positions. -/
theorem size_between_le (start : ℤ) {length : ℤ} (notNegative : 0 ≤ length) :
    ((recording.between start (start + length)).size : ℤ) ≤ length := by
  rw [between, Array.size_extract, Slice.clip, Slice.clip]
  split
  · split
    · omega
    · omega
  · split
    · omega
    · omega

/--
Singles are filled up with silence, which is a single, unless there are too many
bytes.
-/
theorem IsLoaded.exists_fill (loaded : recording.IsLoaded)
    {samples : Array Sample}
    (held : ∀ sample ∈ samples, recording.format.Holds sample) {length : ℕ}
    (short : samples.size ≤ length) (fits : length * 4 < countLimit) :
    ∃ window, recording.fill samples length = .ok window ∧
      window.samples.size = length ∧
      ∀ sample ∈ window.samples, ∃ value, sample = .single value := by
  have few : samples.size * recording.format.bytes < countLimit := by
    rw [loaded.bytes]
    omega
  refine ⟨_, (loaded.isArray.fill_eq_ok_iff held few short).mpr
    ⟨loaded.bytes ▸ fits, rfl⟩, ?_, ?_⟩
  · rw [Array.size_append, Array.size_replicate]
    omega
  · intro sample member
    rcases Array.mem_append.mp member with given | silent
    · have single := held sample given
      rw [loaded.format] at single
      cases single
      exact ⟨_, rfl⟩
    · rw [loaded.format] at silent
      exact ⟨_, Array.eq_of_mem_replicate silent⟩

/-- The other way round, what is filled up has not too many bytes. -/
theorem IsLoaded.fits_of_fill (loaded : recording.IsLoaded)
    {samples : Array Sample}
    (held : ∀ sample ∈ samples, recording.format.Holds sample) {length : ℤ}
    {window : Window} (few : samples.size * 4 < countLimit)
    (filled : recording.fill samples length = .ok window) :
    length * 4 < countLimit := by
  rcases le_or_gt length samples.size with long | longer
  · omega
  · obtain ⟨length, rfl⟩ := Int.eq_ofNat_of_zero_le (show 0 ≤ length by omega)
    have fits :=
      ((loaded.isArray.fill_eq_ok_iff held (loaded.bytes ▸ few) (by omega)).mp
        filled).1
    rw [loaded.bytes] at fits
    exact_mod_cast fits

section Windows

variable {rate count length : ℤ} {index : ℕ}

/--
A frame that is counted has a window, of the length that is asked for and with
singles only.
-/
theorem IsLoaded.exists_window
    (loaded : recording.IsLoaded) (positive : 0 < rate)
    (counted : recording.frameCount (.int rate) = .ok count)
    (inside : (index : ℤ) < count) (notNegative : 0 ≤ length)
    (fits : length * 4 < countLimit) :
    ∃ window, recording.window (.int index) (.int rate) length = .ok window ∧
      (window.samples.size : ℤ) = length ∧
        ∀ sample ∈ window.samples, ∃ value, sample = .single value := by
  rcases loaded.exists_startOf positive counted inside with ⟨start, started⟩
  have short : ((recording.between start (start + length)).size : ℤ) ≤ length :=
    size_between_le start notNegative
  obtain ⟨length, rfl⟩ := Int.eq_ofNat_of_zero_le notNegative
  rcases loaded.exists_fill (fun sample member => loaded.isArray.samples sample
    (mem_of_mem_between member)) (by exact_mod_cast short)
      (by exact_mod_cast fits) with
    ⟨window, filled, size, singles⟩
  exact ⟨window, bind_eq_ok_iff.mpr ⟨start, started, filled⟩,
    by exact_mod_cast size, singles⟩

theorem IsLoaded.fits_of_window (loaded : recording.IsLoaded)
    {frame rate : Number} {window : Window}
    (cut : recording.window frame rate length = .ok window) :
    length * 4 < countLimit := by
  rcases bind_eq_ok_iff.mp cut with ⟨start, -, filled⟩
  refine loaded.fits_of_fill (fun sample member => loaded.isArray.samples sample
    (mem_of_mem_between member))
      (lt_of_le_of_lt (Nat.mul_le_mul_right 4 ?_) loaded.few) filled
  rw [between, Array.size_extract]
  omega

end Windows

end Recording

end SoundGrid
