import SoundGrid.Proofs.Configuration.RoundTrip
import SoundGrid.Proofs.Grid.OtherRules
import SoundGrid.Proofs.Grid.WrapSafety
import SoundGrid.Proofs.Loudness.Levelling
import SoundGrid.Proofs.Playback.Act
import SoundGrid.Proofs.Recording.Frame

/-!
# Frames that are played

With the standard loudness a window is levelled whatever doubles it holds: where
the root mean square is zero, nothing is divided by it, for such a window counts
as silent.  The levelled samples are singles, and a grid with the standard rules
completes every frame of singles.  So a frame of a loaded recording is played
unless its window has too many bytes.
-/

namespace SoundGrid

/-! ## Levelling -/

/-- Numbers of one rank are below the same numbers. -/
theorem Number.isBelow_congr {first other : Number}
    (same : first.rank? = other.rank?) (bound : Number) :
    first.isBelow bound = other.isBelow bound := by
  rw [isBelow, isBelow, compare?_eq, compare?_eq, same]

namespace Loudness

/-- A double that is equal to zero is below the standard silence. -/
theorem isBelow_silence_of_beq_zero {rms : Float} (zero : (rms == 0.0) = true) :
    Number.isBelow (.double rms) (.double 0.01) = true := by
  rcases Number.Double.beq_iff.mp zero with ⟨rank, ranked, zeroRanked⟩
  have same : (Number.double rms).rank? = (Number.double 0.0).rank? :=
    ranked.trans zeroRanked.symm
  rw [Number.isBelow_congr same]
  decide +kernel

/-- The standard gain is a plain double. -/
theorem exists_gain_standard (rms : Float) :
    ∃ gain : Float, standard.gain (Sample.ofDouble rms) =
      .ok (Sample.ofDouble gain) := by
  have heard : (Sample.ofDouble rms).lessOrSame standard.silence =
      .ok ((Number.double rms).isAtMost (.double 0.01)) :=
    Sample.lessOrSame_eq rms rfl
  cases silent : (Number.double rms).isAtMost (.double 0.01) with
  | true =>
      rw [silent] at heard
      exact ⟨1.0, gain_of_silent heard⟩
  | false =>
      rw [silent] at heard
      have nonzero : (rms == 0.0) = false := by
        rw [Bool.eq_false_iff]
        intro zero
        rw [Number.isAtMost_eq, isBelow_silence_of_beq_zero zero] at silent
        cases silent
      have divided : divide standard.target (Sample.ofDouble rms) =
          .ok (Sample.ofDouble (0.15 / rms)) := by
        change Except.map Sample.ofDouble
          (if (rms == 0.0) = true then _ else pure (0.15 / rms)) = _
        rw [nonzero]
        rfl
      have compared : standard.maxGain.less (Sample.ofDouble (0.15 / rms)) =
          .ok ((Number.double 3.0).isBelow (.double (0.15 / rms))) :=
        Sample.less_eq rfl rfl
      have gained := gain_of_audible heard divided compared
      cases high : (Number.double 3.0).isBelow (.double (0.15 / rms)) with
      | true =>
          rw [high] at gained
          exact ⟨3.0, gained⟩
      | false =>
          rw [high] at gained
          exact ⟨0.15 / rms, gained⟩

/-- A window that is not empty is levelled, sample by sample, to singles. -/
theorem exists_normalize_standard {window : List Float}
    (nonempty : window ≠ []) :
    ∃ levelled, standard.normalize window = .ok levelled ∧
      levelled.length = window.length ∧
      ∀ sample ∈ levelled, ∃ value, sample = .single value := by
  rcases exists_gain_standard (rms Sample window) with ⟨gain, isGain⟩
  have filled : window.isEmpty = false := by
    cases window with
    | nil => exact absurd rfl nonempty
    | cons first rest => rfl
  refine ⟨window.map (level gain), ?_, List.length_map _, ?_⟩
  · rw [normalize, filled]
    change (do
      let gain ← standard.gain (Sample.ofDouble (rms Sample window))
      let factor ← multiplier gain
      pure (window.map (level factor))) = _
    rw [isGain]
    rfl
  · intro sample member
    rcases List.mem_map.mp member with ⟨double, -, rfl⟩
    exact ⟨_, rfl⟩

end Loudness

/-- Singles have elements, one for each. -/
theorem Sample.exists_elements {samples : List Sample}
    (singles : ∀ sample ∈ samples, ∃ value, sample = .single value) :
    ∃ doubles, Sample.elements samples = .ok doubles ∧
      doubles.length = samples.length := by
  induction samples with
  | nil => exact ⟨[], rfl, rfl⟩
  | cons sample rest ih =>
      rcases List.forall_mem_cons.mp singles with ⟨⟨value, rfl⟩, others⟩
      rcases ih others with ⟨doubles, taken, length⟩
      refine ⟨Number.Single.toDouble value :: doubles, ?_, by simp [length]⟩
      exact bind_eq_ok_iff.mpr
        ⟨_, rfl, bind_eq_ok_iff.mpr ⟨doubles, taken, rfl⟩⟩

/-! ## Signals -/

section Signals

variable {recording : Recording} {playback : Playback} {rate count : ℤ}
  {index : ℕ}

/-- A frame that is counted has a time and a signal of singles. -/
theorem Playback.exists_signal (loaded : recording.IsLoaded)
    (standard : playback.loudness = .standard)
    (isRate : playback.rate = .int rate) (ratePositive : 0 < rate)
    (windowPositive : 0 < playback.window)
    (counted : recording.frameCount (.int rate) = .ok count)
    (inside : (index : ℤ) < count) (fits : playback.window * 4 < countLimit) :
    ∃ signal time, playback.signal recording (.int index) = .ok (signal, time) ∧
      Number.div (.int index) (.int rate) = .ok time ∧
      0 < signal.size ∧ ∀ sample ∈ signal, sample.IsFloating := by
  rcases loaded.exists_window ratePositive counted inside windowPositive.le
      fits with
    ⟨window, cut, size, singles⟩
  rcases loaded.exists_time ratePositive counted inside with ⟨time, timed⟩
  rcases Sample.exists_elements fun sample member =>
    singles sample (Array.mem_toList_iff.mp member) with ⟨doubles,
      taken, length⟩
  rw [← Array.length_toList] at size
  have filled : doubles ≠ [] := List.ne_nil_of_length_pos (by omega)
  rcases Loudness.exists_normalize_standard filled with
    ⟨levelled, normalized, sameLength, levelledSingles⟩
  refine ⟨levelled.toArray, time, ?_, timed, ?_, ?_⟩
  · rw [signal, isRate, standard]
    refine bind_eq_ok_iff.mpr ⟨window, cut,
      bind_eq_ok_iff.mpr ⟨time, timed, ?_⟩⟩
    exact bind_eq_ok_iff.mpr ⟨doubles, taken,
      bind_eq_ok_iff.mpr ⟨levelled, normalized, rfl⟩⟩
  · rw [List.size_toArray]
    omega
  · intro sample member
    rcases levelledSingles sample (List.mem_toArray.mp member) with ⟨value, rfl⟩
    exact .single value

/--
The other way round, the window of a frame that has a signal has not too many
bytes.
-/
theorem Playback.fits_of_signal (loaded : recording.IsLoaded) {frame : Number}
    {prepared : Array Sample × Float}
    (signalled : playback.signal recording frame = .ok prepared) :
    playback.window * 4 < countLimit := by
  rcases bind_eq_ok_iff.mp signalled with ⟨window, cut, -⟩
  exact loaded.fits_of_window cut

end Signals

/-! ## Grids that are played -/

variable {Source : Type}

namespace Grid

/-- A construction out of natural numbers lays out a grid without cells. -/
theorem make_eq_layOut {Real Value : Type} [Arithmetic Real Value]
    (rows columns : ℕ) (level : Level) {connectivity : Number}
    {neighbourhood : Connectivity}
    (asked : Connectivity.numberOf (.ofNumber connectivity) =
      .ok (connectivity, neighbourhood)) (settings : Settings Real)
      (rules : List (Rule Real Value Source)) (source : Source) :
    make (.int rows) (.int columns) (.int level.number)
        (.ofNumber connectivity) settings rules source =
      .ok ((empty level settings rules neighbourhood source).layOut
        rows columns) := by
  have connected :
      Connectivity.ofDatum (.ofNumber connectivity) = .ok neighbourhood := by
    rw [Connectivity.ofDatum, asked]
    rfl
  have shaped : (empty level settings rules neighbourhood source).resize
      (.int rows) (.int columns) =
      (.ok (), (empty level settings rules neighbourhood source).layOut rows
        columns) := by
    have number (count : ℕ) :
        (Datum.int count).number? = some (.int count) := rfl
    have resized := resize_of_int
      (empty level settings rules neighbourhood source) (number rows)
      (number columns)
    rwa [if_neg (by omega)] at resized
  simp only [make, connected, Level.ofDatum_number, bind, Except.bind, shaped]
  rfl

end Grid

variable [RandomSource Source]

open Grid (Reachable Tracked)

/--
A grid that is played: made out of integer dimensions, with the standard rules
in some order, and with times that are doubles.
-/
structure Grid.IsPlayed (grid : Grid Float Sample Source) : Prop where
  reachable : Reachable grid
  rules : grid.rules.Perm Rule.Standard.rules
  tracked : ∃ frames, Tracked grid frames ∧
    ∀ frame ∈ frames, ∃ last, frame.time = .double last

namespace Grid

/-- A new grid with the standard rules can be played. -/
theorem isPlayed_layOut (rows columns : ℕ) (level : Level)
    {connectivity : Number} {neighbourhood : Connectivity}
    (asked : Connectivity.numberOf (.ofNumber connectivity) =
      .ok (connectivity, neighbourhood)) (settings : Settings Float)
      (source : Source) :
    ((empty level settings Rule.Standard.rules neighbourhood source).layOut
      rows columns : Grid Float Sample Source).IsPlayed where
  reachable := .make ⟨rows, rfl⟩ ⟨columns, rfl⟩
    (make_eq_layOut rows columns level asked settings
      Rule.Standard.rules source)
  rules := List.Perm.refl _
  tracked :=
    ⟨[], tracked_layOut _ rows columns, fun _ impossible => nomatch impossible⟩

variable {grid : Grid Float Sample Source}

/-- So can one with its rules shuffled. -/
theorem IsPlayed.shuffleRules (played : grid.IsPlayed) :
    grid.shuffleRules.IsPlayed where
  reachable := played.reachable.perform .shuffleRules trivial
  rules := (Rule.perm_shuffle grid.rules grid.source).trans played.rules
  tracked := by
    rcases played.tracked with ⟨frames, tracked, timed⟩
    exact ⟨frames, tracked.of_cells rfl, timed⟩

/--
A frame of doubles or singles is completed, and the grid can be played further.
-/
theorem IsPlayed.exists_advance (played : grid.IsPlayed) {signal : Array Sample}
    (nonempty : 0 < signal.size)
    (floating : ∀ sample ∈ signal, sample.IsFloating) (time : Float) :
    ∃ next, grid.advance signal (.double time) = (.ok (), next) ∧
      next.IsPlayed ∧ next.rows = grid.rows ∧ next.columns = grid.columns := by
  rcases finished_of_standard played.reachable played.rules nonempty floating
      (.double time) with
    ⟨cells, source, completed⟩
  refine ⟨_, completed, ?_, rfl, rfl⟩
  constructor
  · have reached :=
      played.reachable.perform (.advance signal (.double time)) trivial
    change Reachable (grid.advance signal (.double time)).2 at reached
    rwa [completed] at reached
  · exact played.rules
  · rcases played.tracked with ⟨frames, tracked, timed⟩
    have advanced := tracked.advance signal (.double time)
    simp only [framesAfter, completed] at advanced
    refine ⟨_, advanced, ?_⟩
    intro frame member
    rcases List.mem_append.mp member with before | own
    · exact timed frame before
    · rw [List.mem_singleton.mp own]
      exact ⟨time, rfl⟩

end Grid

end SoundGrid
