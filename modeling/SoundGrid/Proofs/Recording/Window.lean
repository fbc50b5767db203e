import SoundGrid.Proofs.Fault
import SoundGrid.Proofs.Number.Accuracy
import SoundGrid.Recording

/-!
# Windows of an array

The window of a frame begins at the whole part of the frame's place in the
sound. This place is a quotient of integers, rounded once, and its whole part is
exact while the index times the rate of the sound has few bits. The window holds
the samples from there on, followed by silence, unless it has so many bytes that
no array can be that long.

Windows that are at least as long as the frames are apart leave no sample out:
of the frames that begin at a sample or before it, the last one has the sample
in its window, and this frame is one of those that cover the sound.
-/

namespace SoundGrid

/-! ## Arrays -/

namespace SampleFormat

/-- The samples that an array of a format holds. -/
inductive Holds : SampleFormat → Sample → Prop where
  | wide (value : Float) : Holds .wide (.wide value)
  | single (value : Float32) : Holds .single (.single value)
  | byte (value : UInt8) : Holds .byte (.byte value)
  | integer (value : Int) : Holds .integer (.ofInt value)
  | truth (value : Bool) : Holds .truth (.plain (.bool value))
  | mixed (given : Datum) : Holds .mixed (.plain given)

variable {format : SampleFormat}

/-- They are in the format of the array already. -/
theorem Holds.convert {sample : Sample} (holds : format.Holds sample) :
    format.convert sample = .ok sample := by
  cases holds <;> rfl

/-- Silence is zero in every format. -/
theorem toDouble_silence (format : SampleFormat) :
    format.silence.toDouble = .ok 0.0 := by
  cases format <;> exact eq_ok_of_toOption (by decide +kernel)

theorem bytes_pos (format : SampleFormat) : 0 < format.bytes := by
  cases format <;> decide

end SampleFormat

namespace Recording

/--
A recording whose samples are an array, of which the bytes can be counted.
-/
structure IsArray (recording : Recording) : Prop where
  format : recording.format ≠ .plain
  samples : ∀ sample ∈ recording.samples, recording.format.Holds sample
  few : recording.samples.size * recording.format.bytes < countLimit

variable {recording : Recording}

/-- Silence that is added to an array has its format. -/
theorem IsArray.filledFormat (array : recording.IsArray)
    (samples : Array Sample) :
    recording.filledFormat samples = recording.format := by
  rw [Recording.filledFormat]
  split
  · next plain => exact absurd plain array.format
  · rfl

/--
Samples of an array are filled up with silence unless this makes too many bytes.
-/
theorem IsArray.fill_eq_ok_iff (array : recording.IsArray)
    {samples : Array Sample}
    (own : ∀ sample ∈ samples, recording.format.Holds sample)
    (few : samples.size * recording.format.bytes < countLimit) {length : ℕ}
    (short : samples.size ≤ length) {window : Window} :
    recording.fill samples length = .ok window ↔
      length * recording.format.bytes < countLimit ∧
        window = ⟨recording.format,
          samples ++ Array.replicate (length - samples.size)
            recording.format.silence⟩ := by
  rcases short.eq_or_lt with full | shorter
  · rw [fill, if_neg (by omega), ← full, Nat.sub_self, Array.replicate_zero,
      Array.append_empty]
    change Except.ok _ = Except.ok _ ↔ _
    rw [Except.ok.injEq, eq_comm]
    exact (and_iff_right few).symm
  · have converted :
        samples.toList.mapM recording.format.convert = .ok samples.toList :=
      mapM_eq_ok_iff.mpr (List.forall₂_same.mpr fun sample member =>
        (own sample (Array.mem_toList_iff.mp member)).convert)
    have silence :
        ((length : ℤ) - samples.size).toNat = length - samples.size := by omega
    have bytes : length ≤ length * recording.format.bytes :=
      Nat.le_mul_of_pos_right _ recording.format.bytes_pos
    have counted :
        checkSilence recording.format (length - samples.size) length = .ok () ↔
        length * recording.format.bytes < countLimit := by
      rw [checkSilence]
      split
      · exact iff_of_false (fun impossible => nomatch impossible) (by omega)
      · split
        · next beyond =>
          have large := not_lt.mpr (by exact_mod_cast beyond)
          exact iff_of_false (fun impossible => nomatch impossible) large
        · next inside =>
            exact iff_of_true rfl (by exact_mod_cast not_le.mp inside)
    have joined : (samples.toList ++
        List.replicate (length - samples.size)
          recording.format.silence).toArray =
          samples ++ Array.replicate (length - samples.size)
            recording.format.silence := by
      simp
    rw [fill, if_pos (by exact_mod_cast shorter), array.filledFormat]
    simp only [converted, silence, joined, bind_eq_ok_iff, Except.ok.injEq,
      exists_eq_left', ← counted]
    constructor
    · rintro ⟨done, checked, ⟨⟩⟩
      exact ⟨checked, rfl⟩
    · rintro ⟨checked, rfl⟩
      exact ⟨(), checked, rfl⟩

/-! ## Beginnings -/

/-- A slice that begins at a natural number is the part from there on. -/
theorem between_natCast (recording : Recording) (start length : ℕ) :
    recording.between start (start + length) =
      recording.samples.extract start (start + length) := by
  have clip (bound : ℕ) :
      Slice.clip 0 recording.samples.size recording.samples.size bound =
      min (recording.samples.size : ℤ) bound := by
    rw [Slice.clip, if_neg (by omega)]
  have stop : (start : ℤ) + length = ((start + length : ℕ) : ℤ) := by
    push_cast; rfl
  rw [between, stop, clip, clip]
  apply Array.ext_getElem?
  intro position
  simp only [Array.getElem?_extract]
  rcases le_total start recording.samples.size with inside | outside
  · have first :
        (min (recording.samples.size : ℤ) start).toNat = start := by omega
    have last :
        min (min (recording.samples.size : ℤ) ((start + length : ℕ) : ℤ)).toNat
        recording.samples.size =
          min (start + length) recording.samples.size := by omega
    rw [first, last]
  · rw [if_neg (by omega), if_neg (by omega)]

variable {rate fps : ℕ}

/--
While it is counted in few bits, the place of a frame has the whole part of the
exact place.
-/
theorem startOf_eq (isRate : recording.rate = .int rate) (positive : 0 < fps)
    {index : ℕ} (small : index * rate < 2 ^ 53) :
    recording.startOf (.int index) (.int fps) =
      .ok ((index * rate / fps : ℕ) : ℤ) := by
  rcases Number.Double.exists_ofQuotient?_natCast small positive with
    ⟨position, found, whole⟩
  have placed : Number.div (.int (index * rate)) (.int fps) = .ok position := by
    change (if (fps : ℤ) = 0 then _ else _) = _
    rw [if_neg (by omega), ← Nat.cast_mul, found]
    rfl
  refine bind_eq_ok_iff.mpr ⟨.int (index * rate), ?_,
    bind_eq_ok_iff.mpr ⟨position, placed, ?_⟩⟩
  · rw [isRate]
    rfl
  · rw [Number.whole, whole]

/-- The window of a frame is the part from there on, filled up with silence. -/
theorem IsArray.window_eq_ok_iff (array : recording.IsArray)
    (isRate : recording.rate = .int rate) (positive : 0 < fps) {index : ℕ}
    (small : index * rate < 2 ^ 53) (length : ℕ) {window : Window} :
    recording.window (.int index) (.int fps) length = .ok window ↔
      length * recording.format.bytes < countLimit ∧
        window = ⟨recording.format,
          let start := index * rate / fps
          let part := recording.samples.extract start (start + length)
          part ++ Array.replicate (length - part.size)
            recording.format.silence⟩ := by
  rw [Recording.window, startOf_eq isRate positive small]
  change recording.fill (recording.between _ _) _ = _ ↔ _
  rw [between_natCast]
  generalize index * rate / fps = start
  have short :
      (recording.samples.extract start (start + length)).size ≤ length := by
    rw [Array.size_extract]
    omega
  refine array.fill_eq_ok_iff ?_ ?_ short
  · intro sample member
    rcases Array.mem_extract_iff_getElem.mp member with ⟨position, inside, rfl⟩
    exact array.samples _ (Array.getElem_mem _)
  · refine lt_of_le_of_lt (Nat.mul_le_mul_right _ ?_) array.few
    rw [Array.size_extract]
    omega

/-- So it can be cut when its bytes can be counted. -/
theorem IsArray.exists_window_iff (array : recording.IsArray)
    (isRate : recording.rate = .int rate) (positive : 0 < fps) {index : ℕ}
    (small : index * rate < 2 ^ 53) (length : ℕ) :
    (∃ window, recording.window (.int index) (.int fps) length = .ok window) ↔
      length * recording.format.bytes < countLimit := by
  simp only [array.window_eq_ok_iff isRate positive small, exists_and_left,
    exists_eq, and_true]

/--
Each of its entries is the sample at the entry's place, or silence behind the
end.
-/
theorem IsArray.getElem?_of_window (array : recording.IsArray)
    (isRate : recording.rate = .int rate) (positive : 0 < fps) {index : ℕ}
    (small : index * rate < 2 ^ 53) {length : ℕ} {window : Window}
    (cut : recording.window (.int index) (.int fps) length = .ok window) :
    window.samples.size = length ∧ ∀ entry < length, window.samples[entry]? =
      some (recording.samples[index * rate / fps + entry]?.getD
        recording.format.silence) := by
  rcases (array.window_eq_ok_iff isRate positive small length).mp cut with
    ⟨-, rfl⟩
  generalize index * rate / fps = start
  dsimp only
  constructor
  · rw [Array.size_append, Array.size_replicate, Array.size_extract]
    omega
  · intro entry inside
    rw [Array.getElem?_append]
    split
    · next given =>
      rw [Array.size_extract] at given
      have within : start + entry < recording.samples.size := by omega
      rw [Array.getElem?_extract, if_pos given]
      rw [Array.getElem?_eq_getElem within, Option.getD_some]
    · next behind =>
      rw [Array.size_extract] at behind
      have beyond : recording.samples.size ≤ start + entry := by omega
      rw [Array.getElem?_replicate, if_pos (by rw [Array.size_extract]; omega),
        Array.getElem?_eq_none beyond, Option.getD_none]

/-! ## Coverage -/

/--
The last frame that begins at a position or before it has the position in its
window, if windows are at least as long as frames are apart.
-/
theorem exists_frame_of_lt {size length position : ℕ} (ratePositive : 0 < rate)
    (fpsPositive : 0 < fps) (wide : rate ≤ length * fps)
    (inside : position < size) :
    ∃ index, index * rate < size * fps ∧ index * rate / fps ≤ position ∧
      position < index * rate / fps + length := by
  have positive : 0 < (position + 1) * fps :=
    Nat.mul_pos (Nat.succ_pos _) fpsPositive
  have atMost := Nat.div_mul_le_self ((position + 1) * fps - 1) rate
  have further :=
    Nat.lt_div_mul_add (a := (position + 1) * fps - 1) ratePositive
  refine ⟨((position + 1) * fps - 1) / rate, ?_⟩
  generalize ((position + 1) * fps - 1) / rate * rate = place at *
  have below : place < (position + 1) * fps := by omega
  have above : (position + 1) * fps ≤ place + length * fps := by omega
  refine ⟨below.trans_le (Nat.mul_le_mul_right _ inside), ?_, ?_⟩
  · exact Nat.le_of_lt_succ ((Nat.div_lt_iff_lt_mul fpsPositive).mpr below)
  · have next : position + 1 ≤ (place + length * fps) / fps :=
      (Nat.le_div_iff_mul_le fpsPositive).mpr above
    rw [Nat.add_mul_div_right _ _ fpsPositive] at next
    omega

/--
A window of an array can be cut when its bytes can be counted. Its entries are
the samples from the whole part of the frame's place on, and zeros behind the
end. If windows are at least as long as frames are apart, every sample is an
entry of the window of one of the frames that cover the sound.
-/
theorem IsArray.windows_padded_and_covering (array : recording.IsArray)
    (isRate : recording.rate = .int rate) (ratePositive : 0 < rate)
    (fpsPositive : 0 < fps) (length : ℕ) :
    (∀ index : ℕ, index * rate < 2 ^ 53 →
      ((∃ window, recording.window (.int index) (.int fps) length =
        .ok window) ↔ length * recording.format.bytes < countLimit) ∧
      ∀ window, recording.window (.int index) (.int fps) length = .ok window →
        window.samples.size = length ∧
        ∀ entry < length, window.samples[entry]? =
          some (recording.samples[⌊(index * rate / fps : ℚ)⌋₊ + entry]?.getD
            recording.format.silence)) ∧
      recording.format.silence.toDouble = .ok 0.0 ∧
      (length * recording.format.bytes < countLimit →
        ⌈(rate / fps : ℚ)⌉₊ ≤ length →
        recording.samples.size * fps < 2 ^ 53 →
        ∀ position < recording.samples.size,
          ∃ index < ⌈(recording.samples.size * fps / rate : ℚ)⌉₊, ∃ window,
            recording.window (.int index) (.int fps) length = .ok window ∧
              ∃ entry < length, ⌊(index * rate / fps : ℚ)⌋₊ + entry = position ∧
                window.samples[entry]? = recording.samples[position]?) := by
  have begins (index : ℕ) :
      ⌊(index * rate / fps : ℚ)⌋₊ = index * rate / fps := by
    rw [← Nat.cast_mul, Nat.floor_div_eq_div]
  have fpsRational : (0 : ℚ) < fps := by exact_mod_cast fpsPositive
  have rateRational : (0 : ℚ) < rate := by exact_mod_cast ratePositive
  simp only [begins]
  refine ⟨?_, recording.format.toDouble_silence, ?_⟩
  · intro index small
    exact ⟨array.exists_window_iff isRate fpsPositive small length,
      fun window => array.getElem?_of_window isRate fpsPositive small⟩
  · intro fits wide short position inside
    have wideProduct : rate ≤ length * fps := by
      rw [Nat.ceil_le, div_le_iff₀ fpsRational] at wide
      exact_mod_cast wide
    rcases exists_frame_of_lt ratePositive fpsPositive wideProduct inside with
      ⟨index, covering, atMost, further⟩
    have small : index * rate < 2 ^ 53 := covering.trans short
    rcases (array.exists_window_iff isRate fpsPositive small length).mpr
      fits with ⟨window, cut⟩
    refine ⟨index, ?_, window, cut, position - index * rate / fps, by omega,
      by omega, ?_⟩
    · rw [Nat.lt_ceil, lt_div_iff₀ rateRational]
      exact_mod_cast covering
    · rw [(array.getElem?_of_window isRate fpsPositive small cut).2 _
        (by omega), Nat.add_sub_cancel' atMost,
        Array.getElem?_eq_getElem inside, Option.getD_some]

/-- Three samples at two a second. -/
def brief : Recording :=
  ⟨.wide, #[.wide 0.25, .wide 0.5, .wide 0.75], .int 2⟩

theorem isArray_brief : brief.IsArray where
  format := by decide
  samples := by
    simp only [brief, List.mem_toArray, List.forall_mem_cons]
    exact ⟨.wide _, .wide _, .wide _, fun _ impossible => nomatch impossible⟩
  few := by decide

/-- At three frames a second windows of one sample are long enough. -/
theorem windows_covering_brief :
    brief.IsArray ∧ brief.rate = .int (2 : ℕ) ∧ 0 < 2 ∧ 0 < 3 ∧
      ∀ position < 3, ∃ index < 5, ∃ window,
        brief.window (.int (index : ℕ)) (.int (3 : ℕ)) (1 : ℕ) = .ok window ∧
          window.samples[0]? = brief.samples[position]? := by
  rcases isArray_brief.windows_padded_and_covering
    (show brief.rate = .int (2 : ℕ) from rfl)
    (by decide) (show 0 < 3 by decide) 1 with ⟨-, -, covering⟩
  have wide : ⌈((2 : ℕ) / (3 : ℕ) : ℚ)⌉₊ ≤ 1 := by
    rw [Nat.ceil_le]
    norm_num
  have frames : ⌈(brief.samples.size * (3 : ℕ) / (2 : ℕ) : ℚ)⌉₊ = 5 := by
    rw [Nat.ceil_eq_iff (by decide)]
    norm_num [brief]
  refine ⟨isArray_brief, rfl, by decide, by decide, ?_⟩
  intro position inside
  rcases covering (by decide) wide (by decide) position inside with
    ⟨index, counted, window, cut, entry, first, -, same⟩
  rw [Nat.lt_one_iff.mp first] at same
  exact ⟨index, frames ▸ counted, window, cut, same⟩

/-- A window of two to the power of sixty-one doubles has too many bytes. -/
theorem exists_window_refused :
    ∃ recording : Recording, recording.IsArray ∧ recording.rate = .int (2 : ℕ) ∧
      0 * 2 < 2 ^ 53 ∧ ¬ ∃ window,
        recording.window (.int (0 : ℕ)) (.int (1 : ℕ)) ((2 ^ 61 : ℕ) : ℤ) =
          .ok window := by
  refine ⟨brief, isArray_brief, rfl, by decide, ?_⟩
  rw [isArray_brief.exists_window_iff (show brief.rate = .int (2 : ℕ) from rfl)
    (by decide) (by decide)]
  decide

end Recording

end SoundGrid
