import SoundGrid.Proofs.Loudness.Levelling
import SoundGrid.Proofs.Playback.Run

/-!
# Signals of finite recordings

A window of a finite recording is finite: silence is, and so is every sample
that is put into an array with it. A playback has windows with samples in them,
so a frame that has a window and a time has a signal, and whatever a grid is
handed lies in the unit interval.
-/

namespace SoundGrid

/-! ## Finite samples -/

namespace Sample

variable {sample : Sample}

/-- A sample with a finite double. -/
def IsFinite (sample : Sample) : Prop :=
  ∃ value, sample.element = .ok value ∧ value.isFinite = true

theorem IsFinite.toDouble (finite : sample.IsFinite) :
    ∃ value, sample.toDouble = .ok value ∧ value.isFinite = true := by
  rcases finite with ⟨value, taken, isFinite⟩
  cases sample with
  | wide | single | byte => exact ⟨value, taken, isFinite⟩
  | plain given =>
      cases given with
      | null =>
          cases taken
          exact absurd isFinite (by decide +kernel)
      | list => cases taken
      | bool | int | double | undefined | text | record =>
          exact ⟨value, taken, isFinite⟩

theorem isFinite_ofInt_natCast {natural : ℕ} (small : natural < 2 ^ 53) :
    (ofInt natural).IsFinite := by
  rcases Number.Double.exists_ofInt?_natCast small with ⟨nearest, found, ranked⟩
  refine ⟨nearest, ?_, Number.Double.isFinite_of_rank? ranked⟩
  change Number.doubleOfInt natural = _
  rw [Number.doubleOfInt, found]

/-- In the format of an array it stays finite. -/
theorem IsFinite.convert (finite : sample.IsFinite) (format : SampleFormat) :
    ∃ converted, format.convert sample = .ok converted ∧
      converted.IsFinite := by
  cases format with
  | plain | single | byte | truth | mixed => exact ⟨sample, rfl, finite⟩
  | wide =>
      rcases finite.toDouble with ⟨value, taken, isFinite⟩
      refine ⟨.wide value, ?_, value, rfl, isFinite⟩
      rw [SampleFormat.convert, taken]
      rfl
  | integer =>
      cases sample with
      | wide | single => exact ⟨_, rfl, finite⟩
      | byte value =>
          have few := value.toNat_lt
          exact ⟨_, rfl, isFinite_ofInt_natCast (by omega)⟩
      | plain given =>
          cases given with
          | bool | int => exact ⟨_, rfl, finite⟩
          | null | double | undefined | text | list | record =>
              exact ⟨_, rfl, finite⟩

theorem isFinite_of_converted {format : SampleFormat}
    {samples converted : List Sample}
    (pairs : List.Forall₂ (fun sample result =>
      format.convert sample = .ok result) samples converted)
    (finite : ∀ sample ∈ samples, sample.IsFinite) :
    ∀ sample ∈ converted, sample.IsFinite := by
  induction pairs with
  | nil => exact fun _ impossible => nomatch impossible
  | cons changed _ ih =>
      rcases List.forall_mem_cons.mp finite with ⟨own, others⟩
      rcases own.convert format with ⟨result, again, isFinite⟩
      rw [changed] at again
      cases again
      exact List.forall_mem_cons.mpr ⟨isFinite, ih others⟩

theorem isFinite_silence (format : SampleFormat) : format.silence.IsFinite := by
  refine ⟨0.0, ?_, by decide +kernel⟩
  cases format <;> exact eq_ok_of_toOption (by decide +kernel)

/-- Finite samples are finite doubles. -/
theorem exists_elements_of_isFinite {samples : List Sample}
    (finite : ∀ sample ∈ samples, sample.IsFinite) :
    ∃ doubles, elements samples = .ok doubles ∧
      doubles.length = samples.length ∧
      ∀ double ∈ doubles, double.isFinite = true := by
  induction samples with
  | nil => exact ⟨[], rfl, rfl, fun _ impossible => nomatch impossible⟩
  | cons sample rest ih =>
      rcases List.forall_mem_cons.mp finite with
        ⟨⟨value, taken, isFinite⟩, others⟩
      rcases ih others with ⟨doubles, takenLater, length, finiteLater⟩
      refine ⟨value :: doubles, ?_, by rw [List.length_cons, length,
        List.length_cons], List.forall_mem_cons.mpr ⟨isFinite, finiteLater⟩⟩
      exact bind_eq_ok_iff.mpr ⟨value, taken,
        bind_eq_ok_iff.mpr ⟨doubles, takenLater, rfl⟩⟩

end Sample

/-! ## Finite windows -/

namespace Recording

variable {recording : Recording} {cut : Window} {length : ℤ}

/--
A recording of finite samples, of which there are no more than can be counted.
-/
structure IsFinite (recording : Recording) : Prop where
  few : recording.samples.size < countLimit
  samples : ∀ sample ∈ recording.samples, sample.IsFinite

/-- A window with a length that can be counted, of finite samples. -/
structure Window.IsFinite (window : Window) (length : ℤ) : Prop where
  size : (window.samples.size : ℤ) = length
  few : window.samples.size < countLimit
  samples : ∀ sample ∈ window.samples, sample.IsFinite

/-- Silence makes no window too long. -/
theorem lt_countLimit_of_checkSilence {format : SampleFormat} {silence : ℤ}
    (counted : checkSilence format silence length = .ok ())
    (notNegative : 0 ≤ length) : length < countLimit := by
  have bytes : length ≤ length * format.bytes :=
    le_mul_of_one_le_right notNegative (by exact_mod_cast format.bytes_pos)
  have fits := (ite_error_eq_ok_iff.mp (ite_error_eq_ok_iff.mp counted).2).1
  omega

theorem IsFinite.fill (finite : recording.IsFinite) {samples : Array Sample}
    (own : ∀ sample ∈ samples, sample ∈ recording.samples)
    (few : samples.size ≤ recording.samples.size)
    (short : (samples.size : ℤ) ≤ length)
    (filled : recording.fill samples length = .ok cut) :
    cut.IsFinite length := by
  by_cases shorter : (samples.size : ℤ) < length
  · rw [Recording.fill, if_pos shorter] at filled
    rcases bind_eq_ok_iff.mp filled with ⟨converted, each, checked⟩
    rcases bind_eq_ok_iff.mp checked with ⟨_, counted, made⟩
    cases made
    have pairs := mapM_eq_ok_iff.mp each
    have kept : converted.length = samples.size := by
      rw [← pairs.length_eq, Array.length_toList]
    have size :
        (converted.length + (length - samples.size).toNat : ℤ) = length := by
      rw [kept]
      omega
    have limited := lt_countLimit_of_checkSilence counted (by omega)
    refine ⟨?_, ?_, fun sample member => ?_⟩
    · rw [List.size_toArray, List.length_append, List.length_replicate]
      exact_mod_cast size
    · rw [List.size_toArray, List.length_append, List.length_replicate]
      omega
    · rcases List.mem_append.mp (List.mem_toArray.mp member) with given | silent
      · refine Sample.isFinite_of_converted pairs
          (fun source isSource => ?_) sample given
        exact finite.samples source
          (own source (Array.mem_toList_iff.mp isSource))
      · rw [List.eq_of_mem_replicate silent]
        exact Sample.isFinite_silence _
  · rw [Recording.fill, if_neg shorter] at filled
    cases filled
    have counted := finite.few
    refine ⟨?_, ?_, fun sample member =>
      finite.samples sample (own sample member)⟩
    · change (samples.size : ℤ) = length
      omega
    · change samples.size < countLimit
      omega

theorem IsFinite.window (finite : recording.IsFinite) {frame rate : Number}
    (notNegative : 0 ≤ length)
    (isCut : recording.window frame rate length = .ok cut) :
    cut.IsFinite length := by
  rcases bind_eq_ok_iff.mp isCut with ⟨start, -, filled⟩
  refine finite.fill (fun _ => mem_of_mem_between) ?_
    (size_between_le start notNegative) filled
  rw [between, Array.size_extract]
  omega

end Recording

/-! ## Signals -/

namespace Playback

variable {loudness : Loudness Sample} {playback : Playback}
  {recording : Recording} {frame : Number}

theorem of_make {rate : Number} {length : ℤ}
    (made : make loudness rate length = .ok playback) :
    playback = ⟨loudness, rate, length⟩ ∧ 0 < length := by
  rcases ite_error_eq_ok_iff.mp (ite_error_eq_ok_iff.mp made).2 with
    ⟨positive, same⟩
  exact ⟨(Except.ok.inj same).symm, not_le.mp positive⟩

/-- A frame with a window and a time has a signal. -/
theorem exists_signal_of_isFinite (magnitudes : playback.loudness.HasMagnitudes)
    (positive : 0 < playback.window) (finite : recording.IsFinite)
    {cut : Recording.Window} {time : Float}
    (isCut : recording.window frame playback.rate playback.window = .ok cut)
    (timed : frame.div playback.rate = .ok time) :
    ∃ levelled : List Float32,
      playback.signal recording frame =
        .ok ((levelled.map Sample.single).toArray, time) ∧
      (levelled.length : ℤ) = playback.window ∧
      ∀ value ∈ levelled, Number.Single.InUnit value := by
  have window := finite.window positive.le isCut
  rcases Sample.exists_elements_of_isFinite fun sample member =>
    window.samples sample (Array.mem_toList_iff.mp member) with
    ⟨doubles, taken, counted, finiteDoubles⟩
  have length : doubles.length = cut.samples.size :=
    counted.trans Array.length_toList
  have size := window.size
  have nonempty : doubles ≠ [] := List.ne_nil_of_length_pos (by omega)
  rcases Loudness.exists_levels magnitudes nonempty
      (length ▸ window.few) finiteDoubles with
    ⟨levelled, normalized, levels⟩
  refine ⟨levelled,
    bind_eq_ok_iff.mpr ⟨cut, isCut, bind_eq_ok_iff.mpr ⟨time, timed,
      bind_eq_ok_iff.mpr ⟨doubles, taken,
        bind_eq_ok_iff.mpr ⟨_, normalized, rfl⟩⟩⟩⟩, ?_,
    levels.inUnit⟩
  rw [levels.length, length, size]

/--
A frame without a signal has no window or no time, and leaves the grid as it
was.
-/
theorem step_of_isFinite {Source : Type} [RandomSource Source]
    (playback : Playback) (magnitudes : playback.loudness.HasMagnitudes)
    (positive : 0 < playback.window) (finite : recording.IsFinite)
    (frame : Number) (grid : Grid Float Sample Source) :
    (∃ fault,
      (recording.window frame playback.rate playback.window = .error fault ∨
        frame.div playback.rate = .error fault) ∧
      playback.step recording grid frame = (.error fault, grid)) ∨
    ∃ (levelled : List Float32) (time : Float),
      (levelled.length : ℤ) = playback.window ∧
      (∀ value ∈ levelled, Number.Single.InUnit value) ∧
      playback.signal recording frame =
        .ok ((levelled.map Sample.single).toArray, time) ∧
      (playback.step recording grid frame).2 =
        (grid.advance (levelled.map Sample.single).toArray
          (.double time)).2 := by
  have refused {fault : Fault}
      (unsignalled : playback.signal recording frame = .error fault) :
      playback.step recording grid frame = (.error fault, grid) := by
    rw [step, unsignalled]
  cases isCut : recording.window frame playback.rate playback.window with
  | error fault =>
      exact Or.inl ⟨fault, Or.inl rfl,
        refused (bind_eq_error_iff.mpr (Or.inl isCut))⟩
  | ok cut =>
      cases timed : frame.div playback.rate with
      | error fault =>
          exact Or.inl ⟨fault, Or.inr rfl, refused (bind_eq_error_iff.mpr
            (Or.inr ⟨cut, isCut, bind_eq_error_iff.mpr (Or.inl timed)⟩))⟩
      | ok time =>
          rcases exists_signal_of_isFinite magnitudes positive finite isCut
              timed with
            ⟨levelled, signalled, length, inUnit⟩
          refine Or.inr ⟨levelled, time, length, inUnit, signalled, ?_⟩
          rw [step, signalled]
          dsimp only
          rcases grid.advance (levelled.map Sample.single).toArray
              (.double time) with
            ⟨_ | _, next⟩ <;> rfl

/--
With finite parameters that are not negative every window of finite samples is
levelled: into as many samples, none of them outside the unit interval, in the
order of the magnitudes. Signs make no difference, and what is refused is the
empty window only. So the grid of a playback is handed samples in the unit
interval, as many as the playback's window has, or it is left as it was, for
want of a window or a time.
-/
theorem hands_over_levels (Source : Type) [RandomSource Source]
    (magnitudes : loudness.HasMagnitudes) :
    (∀ window : List Float, window ≠ [] → window.length < countLimit →
      (∀ sample ∈ window, sample.isFinite = true) →
        ∃ levelled, loudness.normalize window = .ok (levelled.map .single) ∧
          Loudness.Levels window levelled) ∧
    (∀ window other, Loudness.SameMagnitudes window other →
      loudness.normalize other = loudness.normalize window) ∧
    (∀ parameters : Loudness Sample, ∃ fault,
      parameters.normalize ([] : List Float) = .error fault ∧
      fault.category = .value) ∧
    ∀ (rate : Number) (length : ℤ) (playback : Playback),
      make loudness rate length = .ok playback →
      ∀ recording : Recording, recording.IsFinite →
        ∀ (frame : Number) (grid : Grid Float Sample Source),
          (∃ fault, (recording.window frame rate length = .error fault ∨
              frame.div rate = .error fault) ∧
            playback.step recording grid frame = (.error fault, grid)) ∨
          ∃ (levelled : List Float32) (time : Float),
            levelled ≠ [] ∧ (levelled.length : ℤ) = length ∧
            (∀ value ∈ levelled, Number.Single.InUnit value) ∧
            playback.signal recording frame =
              .ok ((levelled.map Sample.single).toArray, time) ∧
            (playback.step recording grid frame).2 =
              (grid.advance (levelled.map Sample.single).toArray
                (.double time)).2 := by
  refine ⟨fun window => Loudness.exists_levels magnitudes,
    fun window other same => same.normalize_eq loudness, fun parameters =>
      ⟨_, rfl, rfl⟩, ?_⟩
  intro rate length playback made recording finite frame grid
  rcases of_make made with ⟨rfl, positive⟩
  rcases step_of_isFinite ⟨loudness, rate, length⟩ magnitudes positive finite
      frame grid with
    refused | ⟨levelled, time, counted, inUnit, signalled, advanced⟩
  · exact Or.inl refused
  · change (levelled.length : ℤ) = length at counted
    exact Or.inr ⟨levelled, time, List.ne_nil_of_length_pos (by omega), counted,
      inUnit, signalled, advanced⟩

/-- A recording without samples. -/
def silent : Recording :=
  ⟨.single, #[], .int Wave.recordingRate⟩

/--
Two samples are levelled whatever their signs, and so is the silence after no
samples.
-/
theorem hands_over_levels_silent :
    Loudness.standard.HasMagnitudes ∧
      (∃ levelled, Loudness.standard.normalize [0.5, -0.25] =
        .ok (levelled.map .single) ∧ Loudness.Levels [0.5, -0.25] levelled ∧
        Loudness.standard.normalize [-0.5, -0.25] =
          .ok (levelled.map .single)) ∧
      (∃ fault, Loudness.standard.normalize ([] : List Float) = .error fault ∧
        fault.category = .value) ∧
      ∃ playback, make .standard (.int 30) 2 = .ok playback ∧ silent.IsFinite ∧
        ∃ (levelled : List Float32) (time : Float), levelled.length = 2 ∧
          (∀ value ∈ levelled, Number.Single.InUnit value) ∧
          playback.signal silent (.int 0) =
            .ok ((levelled.map Sample.single).toArray, time) := by
  have magnitudes := Loudness.standard_hasMagnitudes
  have finite : silent.IsFinite :=
    ⟨by decide, fun _ impossible => nomatch impossible⟩
  rcases hands_over_levels Random.Twister magnitudes with
    ⟨levelled, signs, empty, handed⟩
  rcases levelled [0.5, -0.25] (List.cons_ne_nil _ _) (by decide)
      (by decide +kernel) with
    ⟨singles, normalized, levels⟩
  have flipped : Loudness.SameMagnitudes [0.5, -0.25] [-0.5, -0.25] :=
    .cons (Or.inr rfl) (.cons (Or.inl rfl) .nil)
  have made : make .standard (.int 30) 2 = .ok ⟨.standard, .int 30, 2⟩ := rfl
  refine ⟨magnitudes,
    ⟨singles, normalized, levels, (signs _ _ flipped).trans normalized⟩,
    empty .standard, _, made, finite, ?_⟩
  rcases handed (.int 30) 2 _ made silent finite (.int 0) Run.pair with
    ⟨fault, unwindowed | untimed, -⟩ |
    ⟨signal, time, -, length, inUnit, signalled, -⟩
  · have cut : (silent.window (.int 0) (.int 30) 2).isOk = true := by
      decide +kernel
    rw [unwindowed] at cut
    cases cut
  · have timed : (Number.div (.int 0) (.int 30)).isOk = true := by
      decide +kernel
    rw [untimed] at timed
    cases timed
  · exact ⟨signal, time, by exact_mod_cast length, inUnit, signalled⟩

end Playback

end SoundGrid
