import SoundGrid.Proofs.Picture.Shade
import SoundGrid.Proofs.Playback.Act
import SoundGrid.Random.Twister

/-!
# Traces of switch-offs

A cell leaves a trace where it turned off less than a duration ago.  Its age is
the time of the frame that is drawn minus the time of the frame in which the
cell turned off last, and each of these is a time within a recording.

So an age is below zero when a recording is played again, or another one after
it: the clock starts anew, while the cells still know when they turned off
before.  Such a cell leaves a trace, as if it had turned off just now.
-/

namespace SoundGrid

open Grid (IsLatestSwitchOff Snapshot isOnAfter)

/--
At the end of some frames a cell is off, and its latest switch-off among them
has an age that fits.
-/
def Grid.IsOffSince (frames : List (Snapshot Sample)) (position : Nat)
    (time : Float) (fits : Float → Prop) : Prop :=
  isOnAfter frames position frames.length = false ∧
    ∃ (count : Nat) (frame : Snapshot Sample) (last : Float),
      frames[count]? = some frame ∧
      frame.time = .double last ∧ IsLatestSwitchOff frames position count ∧
      fits (time - last)

section Ages

variable {frames : List (Snapshot Sample)} {position : Nat} {time : Float}
  {fits other : Float → Prop}

/-- There is one age only. -/
theorem Grid.IsOffSince.exists_and
    (since : Grid.IsOffSince frames position time fits)
    (again : Grid.IsOffSince frames position time other) :
    ∃ age, fits age ∧ other age := by
  rcases since with ⟨-, count, frame, last, found, isLast, latest, holds⟩
  rcases again with
    ⟨-, otherCount, otherFrame, otherLast, otherFound, isOtherLast, otherLatest,
      otherHolds⟩
  rw [latest.unique otherLatest, found] at otherFound
  cases otherFound
  rw [isLast] at isOtherLast
  cases isOtherLast
  exact ⟨time - last, holds, otherHolds⟩

theorem Grid.IsOffSince.mono (since : Grid.IsOffSince frames position time fits)
    (implied : ∀ age, fits age → other age) :
    Grid.IsOffSince frames position time other := by
  rcases since with ⟨off, count, frame, last, found, isLast, latest, holds⟩
  exact ⟨off, count, frame, last, found, isLast, latest, implied _ holds⟩

/--
Another condition on the age changes nothing unless an age fits without it.
-/
theorem Grid.isOffSince_and_iff :
    (Grid.IsOffSince frames position time fits ↔
        Grid.IsOffSince frames position time fun age => other age ∧ fits age) ↔
      ¬ Grid.IsOffSince frames position time fun age =>
        ¬ other age ∧ fits age := by
  constructor
  · intro same without
    rcases (same.mp (without.mono fun _ => And.right)).exists_and without with
      ⟨age, ⟨holds, -⟩, ⟨fails, -⟩⟩
    exact fails holds
  · intro never
    constructor
    · rintro ⟨off, count, frame, last, found, isLast, latest, holds⟩
      by_cases also : other (time - last)
      · exact ⟨off, count, frame, last, found, isLast, latest, also, holds⟩
      · exact absurd ⟨off, count, frame, last, found, isLast, latest, also,
          holds⟩ never
    · exact fun since => since.mono fun _ => And.right

end Ages

section Records

variable {frames : List (Snapshot Sample)} {position : Nat} {cell : Cell Sample}
  {palette : Palette Float32 Sample} {given : Datum} {duration : Number}
  {time : Float}

/--
A cell with records of frames is off since one of them, or leaves no trace.
-/
theorem Grid.Recorded.exists_isTraced
    (recorded : Grid.Recorded frames position cell)
    (timed : ∀ frame ∈ frames, ∃ last, frame.time = .double last)
    (lasting : palette.traceDuration = .plain given)
    (number : given.number? = some duration)
    (state : cell.state = isOnAfter frames position frames.length) :
    ∃ traced, palette.isTraced (.double time) cell = .ok traced ∧
      (cell.state = false ∧ traced = true ↔
        Grid.IsOffSince frames position time fun age =>
          Number.isBelow (.double age) duration = true) := by
  rcases recorded.lastOff with
    ⟨count, frame, found, latest, stamped⟩ | ⟨never, unstamped⟩
  · rcases timed frame (List.mem_of_getElem? found) with ⟨last, isLast⟩
    rw [isLast] at stamped
    refine ⟨_, Palette.isTraced_of_double lasting number stamped time, ?_⟩
    rw [state]
    constructor
    · rintro ⟨off, recent⟩
      exact ⟨off, count, frame, last, found, isLast, latest, recent⟩
    · intro since
      have own : Grid.IsOffSince frames position time (· = time - last) :=
        ⟨since.1, count, frame, last, found, isLast, latest, rfl⟩
      rcases since.exists_and own with ⟨_, recent, rfl⟩
      exact ⟨since.1, recent⟩
  · refine ⟨false, Palette.isTraced_of_none unstamped _, ?_⟩
    constructor
    · rintro ⟨-, impossible⟩
      cases impossible
    · rintro ⟨-, count, -, -, -, -, latest, -⟩
      exact absurd latest.1 (never count)

end Records

variable {Source : Type}

/-- Cells have the states that they have at the end of the last frame. -/
theorem Shown.state_eq (earlier : List (Shown Source)) {shown : Shown Source}
    {position : Nat} {cell : Cell Sample}
    (found : shown.grid.cells[position]? = some cell) :
    cell.state = isOnAfter ((earlier ++ [shown]).map Shown.snapshot) position
      ((earlier ++ [shown]).map Shown.snapshot).length := by
  have last : Cell.isOnAt shown.snapshot.cells position = cell.state := by
    rw [Cell.isOnAt, snapshot, found]
    rfl
  rw [List.map_append, List.map_singleton, List.length_append,
    List.length_singleton, Grid.isOnAfter_append_last, last]

variable [RandomSource Source] {grid : Grid Float Sample Source}

/--
At a level that draws states a frame that was handed out can be drawn, and a
cell has the colour of the trace when it is off since less than the duration.
-/
theorem Shows.exists_traced {earlier : List (Shown Source)}
    {shown : Shown Source} (shows : Shows grid (earlier ++ [shown]) shown.grid)
    (new : Grid.IsNew grid) (notOpacity : shown.grid.level ≠ .opacity)
    {look : Look} {palette : Palette Float32 Sample}
    (prepared : look.palette = .ok palette) {trace : Colour Float32}
    (own : palette.HasOwnTrace trace) {duration : Number}
    (lasting : look.traceDuration.number? = some duration)
    (counted : Look.checkPlaces shown.grid.rows shown.grid.columns = .ok ()) :
    ∃ colours, look.colours shown.grid (.double shown.mark.time) = .ok colours ∧
      ∀ position < shown.grid.cells.size, colours[position]? = some trace ↔
        Grid.IsOffSince ((earlier ++ [shown]).map Shown.snapshot) position
          shown.mark.time fun age =>
            Number.isBelow (.double age) duration = true := by
  have tracked := shows.tracked new.tracked
  rw [List.nil_append] at tracked
  have timed : ∀ frame ∈ (earlier ++ [shown]).map Shown.snapshot,
      ∃ last, frame.time = .double last := by
    intro frame member
    rcases List.mem_map.mp member with ⟨other, -, rfl⟩
    exact ⟨other.mark.time, rfl⟩
  have coloured (position : Nat) (cell : Cell Sample)
      (found : shown.grid.cells[position]? = some cell) :
      ∃ colour,
        palette.colourOf shown.grid.level shown.grid.settings.opacity.gain
          (.double shown.mark.time) cell = .ok colour ∧
        (colour = trace ↔
          Grid.IsOffSince ((earlier ++ [shown]).map Shown.snapshot) position
            shown.mark.time fun age =>
              Number.isBelow (.double age) duration = true) := by
    rcases (tracked.records position cell found).exists_isTraced timed
      (Look.traceDuration_of_palette prepared) lasting
        (Shown.state_eq earlier found) with
      ⟨traced, isTraced, since⟩
    rcases own.exists_colourOf notOpacity shown.grid.settings.opacity.gain
        isTraced with
      ⟨colour, drawn, isTrace⟩
    exact ⟨colour, drawn, isTrace.trans since⟩
  rcases Look.exists_colours prepared (shows.laidOut new.laidOut) counted
      fun cell member => by
      rcases Array.getElem?_of_mem member with ⟨position, found⟩
      rcases coloured position cell found with ⟨colour, drawn, -⟩
      exact ⟨colour, drawn⟩ with ⟨colours, painted, placed⟩
  refine ⟨colours, painted, ?_⟩
  intro position inside
  have found := Array.getElem?_eq_getElem inside
  rcases placed position _ found with ⟨colour, atPosition, drawn⟩
  rcases coloured position _ found with ⟨same, again, isTrace⟩
  rw [drawn] at again
  cases again
  rw [atPosition, Option.some.injEq]
  exact isTrace

/--
Whatever is played on a grid, a cell of a frame is drawn in the colour of the
trace when it is off and the age of its latest switch-off is below the duration.
The age is also at least zero, unless the cell turned off in a frame with a
later time than that of the frame that is drawn.
-/
theorem Playback.traced_iff (new : Grid.IsNew grid) (acts : List Act)
    {earlier later : List (Shown Source)} {shown : Shown Source}
    (played : (performAll grid acts).1 = earlier ++ shown :: later)
    (notOpacity : shown.grid.level ≠ .opacity) {look : Look}
    {palette : Palette Float32 Sample} (prepared : look.palette = .ok palette)
    {trace : Colour Float32} (own : palette.HasOwnTrace trace)
    {duration : Number} (lasting : look.traceDuration.number? = some duration)
    (counted : Look.checkPlaces shown.grid.rows shown.grid.columns = .ok ()) :
    ∃ colours, look.colours shown.grid (.double shown.mark.time) = .ok colours ∧
      ∀ position < shown.grid.cells.size,
        let isOffSince :=
          Grid.IsOffSince ((earlier ++ [shown]).map Shown.snapshot) position
            shown.mark.time
        (colours[position]? = some trace ↔
          isOffSince fun age => Number.isBelow (.double age) duration = true) ∧
        ((colours[position]? = some trace ↔
            isOffSince fun age =>
              0.0 ≤ age ∧ Number.isBelow (.double age) duration = true) ↔
          ¬ isOffSince fun age =>
            ¬ 0.0 ≤ age ∧ Number.isBelow (.double age) duration = true) := by
  have shows := (shows_performAll grid acts).upTo played
  rcases shows.exists_traced new notOpacity prepared own lasting counted with
    ⟨colours, painted, traced⟩
  refine ⟨colours, painted, ?_⟩
  intro position inside isOffSince
  refine ⟨traced position inside, ?_⟩
  rw [traced position inside]
  exact Grid.isOffSince_and_iff

namespace Playback

/-- One cell, which is on when its sample is above a low threshold. -/
def blinker : Grid Float Sample Random.Twister :=
  (Grid.empty .direct { Settings.standard with direct.threshold := 0.001 }
    Rule.Standard.rules .diagonal (Random.Twister.ofSeed 0)).layOut 1 1

/--
A short sound between two silences, played twice; of the second run one frame is
asked for.
-/
def replay : List Act :=
  let sound : Recording := ⟨.wide, #[.wide 0.0, .wide 0.005, .wide 0.0], .int 1⟩
  let playback : Playback := ⟨Loudness.standard, .int 1, 1⟩
  [.run playback sound none 4, .run playback sound none 1]

theorem isNew_blinker : Grid.IsNew blinker :=
  .make (rfl : Grid.make (.int 1) (.int 1) (.int 0) (.int 8)
    { Settings.standard with direct.threshold := 0.001 } Rule.Standard.rules
    (Random.Twister.ofSeed 0) = .ok blinker)

/-- The frames of both runs. -/
def replayed : List (Shown Random.Twister) :=
  (performAll blinker replay).1

/--
At the end of the frames the cell is off since the third of them, which was at
two seconds.
-/
theorem isOffSince_replayed :
    Grid.IsOffSince (replayed.map Shown.snapshot) 0 0.0 (· = 0.0 - 2.0) := by
  have length : (replayed.map Shown.snapshot).length = 4 := by decide +kernel
  have timed : (replayed.map Shown.snapshot)[2]?.map (fun frame => frame.time) =
      some (.double 2.0) := by
    decide +kernel
  rcases Option.map_eq_some_iff.mp timed with ⟨frame, found, time⟩
  have off : isOnAfter (replayed.map Shown.snapshot) 0 4 = false := by
    decide +kernel
  refine ⟨length ▸ off, 2, frame, 2.0, found, time,
    ⟨⟨by omega, ?_, ?_⟩, ?_⟩, rfl⟩
  · decide +kernel
  · decide +kernel
  · rintro later behind ⟨within, on, -⟩
    have last : later = 3 := by omega
    have offThen : isOnAfter (replayed.map Shown.snapshot) 0 3 = false := by
      decide +kernel
    rw [last, offThen] at on
    cases on

theorem replayed_ne_nil : replayed ≠ [] :=
  List.ne_nil_of_length_pos (by decide +kernel)

/-- The second run begins with a frame of one cell at time zero. -/
theorem exists_shown_replayed :
    ∃ earlier shown, replayed = earlier ++ [shown] ∧
      shown.grid.level = .direct ∧
      Look.checkPlaces shown.grid.rows shown.grid.columns = .ok () ∧
      shown.grid.cells.size = 1 ∧ shown.mark.time = 0.0 := by
  refine ⟨replayed.dropLast, replayed.getLast replayed_ne_nil,
    (List.dropLast_concat_getLast replayed_ne_nil).symm, ?_, ?_, ?_, ?_⟩
  · decide +kernel
  · have one : (replayed.getLast replayed_ne_nil).grid.rows = 1 ∧
        (replayed.getLast replayed_ne_nil).grid.columns = 1 := by
      decide +kernel
    rw [one.1, one.2]
    rfl
  · decide +kernel
  · decide +kernel

/--
In the frame at the start of the second run the cell is drawn in the colour of
the trace.
-/
theorem traced_iff_replayed :
    ∃ (earlier : List (Shown Random.Twister)) (shown : Shown Random.Twister)
      (palette : Palette Float32 Sample) (trace : Colour Float32),
      Grid.IsNew blinker ∧
      (performAll blinker replay).1 = earlier ++ shown :: [] ∧
        shown.grid.level ≠ .opacity ∧ Look.standard.palette = .ok palette ∧
        palette.HasOwnTrace trace ∧
        Look.standard.traceDuration.number? = some (.double 0.5) ∧
        Look.checkPlaces shown.grid.rows shown.grid.columns = .ok () ∧
        ∃ colours, Look.standard.colours shown.grid (.double shown.mark.time) =
          .ok colours ∧
          ∀ position < shown.grid.cells.size,
            let isOffSince :=
              Grid.IsOffSince ((earlier ++ [shown]).map Shown.snapshot)
                position shown.mark.time
            (colours[position]? = some trace ↔
              isOffSince fun age =>
                Number.isBelow (.double age) (.double 0.5) = true) ∧
            ((colours[position]? = some trace ↔
                isOffSince fun age => 0.0 ≤ age ∧
                  Number.isBelow (.double age) (.double 0.5) = true) ↔
              ¬ isOffSince fun age =>
                ¬ 0.0 ≤ age ∧
                  Number.isBelow (.double age) (.double 0.5) = true) := by
  rcases exists_shown_replayed with
    ⟨earlier, shown, split, level, counted, -, -⟩
  rcases Look.exists_ownTrace_standard with ⟨palette, trace, prepared, own⟩
  have notOpacity : shown.grid.level ≠ .opacity := by
    rw [level]
    decide
  exact ⟨earlier, shown, palette, trace, isNew_blinker, split,
    notOpacity, prepared, own, rfl, counted,
    traced_iff isNew_blinker replay split notOpacity prepared own rfl counted⟩

/--
At the start of the second run the cell is drawn in the colour of the trace,
although it turned off in no frame that is within the duration before: the only
one in which it did is two seconds ahead.
-/
theorem exists_traced_ahead :
    ∃ (earlier : List (Shown Random.Twister)) (shown : Shown Random.Twister)
      (palette : Palette Float32 Sample) (trace : Colour Float32)
      (colours : Array (Colour Float32)),
      Grid.IsNew blinker ∧ (performAll blinker replay).1 = earlier ++ [shown] ∧
        shown.grid.level ≠ .opacity ∧ Look.standard.palette = .ok palette ∧
        palette.HasOwnTrace trace ∧
        Look.standard.colours shown.grid (.double shown.mark.time) =
          .ok colours ∧
        colours[0]? = some trace ∧
        ¬ Grid.IsOffSince ((earlier ++ [shown]).map Shown.snapshot) 0
          shown.mark.time fun age =>
            0.0 ≤ age ∧ Number.isBelow (.double age) (.double 0.5) = true := by
  rcases exists_shown_replayed with
    ⟨earlier, shown, split, level, counted, size, time⟩
  rcases Look.exists_ownTrace_standard with ⟨palette, trace, prepared, own⟩
  have notOpacity : shown.grid.level ≠ .opacity := by
    rw [level]
    decide
  have shows := (shows_performAll blinker replay).upTo split
  rcases shows.exists_traced isNew_blinker notOpacity prepared own rfl
      counted with
    ⟨colours, painted, traced⟩
  have since := isOffSince_replayed
  rw [split] at since
  refine ⟨earlier, shown, palette, trace, colours, isNew_blinker, split,
    notOpacity, prepared, own, painted, ?_, ?_⟩
  · refine (traced 0 (by omega)).mpr ?_
    rw [time]
    refine since.mono ?_
    rintro _ rfl
    decide +kernel
  · intro within
    rw [time] at within
    rcases within.exists_and since with ⟨_, ⟨notNegative, -⟩, rfl⟩
    exact absurd notNegative (by decide +kernel)

end Playback

end SoundGrid
