import SoundGrid.Grid.Advance
import SoundGrid.Loudness
import SoundGrid.Recording

/-!
# Playback

A recording drives a grid frame by frame.  The window of each frame is
levelled and handed to the grid, stamped with the frame's own time, so that
playing does not depend on how fast it is done.

A `Run` is playback under way.  Asking it for the next frame first reports
that the frame before it is done, and then advances the grid once; nothing
happens before it is asked.
-/

namespace SoundGrid

/-- The fixed choices of a playback. -/
structure Playback where
  loudness : Loudness Sample
  /-- Frames per second. -/
  rate : Number
  /-- Samples handed to the grid per frame. -/
  window : Int

/-- An advanced frame: its index and its time. -/
structure FrameMark where
  index : Number
  time : Float

namespace Playback

variable {Source : Type} [RandomSource Source]

/-- A playback; the frame rate and the window have to be positive. -/
def make (loudness : Loudness Sample) (rate : Number) (window : Int) :
    Except Fault Playback :=
  if rate.isAtMost (.int 0) then .error (.rejected .frameRate)
  else if window ≤ 0 then .error (.rejected .windowLength)
  else .ok ⟨loudness, rate, window⟩

/-- The levelled window of a frame, with the frame's time. -/
def signal (playback : Playback) (recording : Recording) (frame : Number) :
    Except Fault (Array Sample × Float) := do
  let window ← recording.window frame playback.rate playback.window
  let time ← frame.div playback.rate
  let doubles ← Sample.elements window.samples.toList
  let levelled ← playback.loudness.normalize doubles
  pure (levelled.toArray, time)

/-- Advances a grid by one frame of a recording. -/
def step (playback : Playback) (recording : Recording)
    (grid : Grid Float Sample Source) (frame : Number) :
    Outcome (Grid Float Sample Source) FrameMark :=
  match playback.signal recording frame with
  | .error fault => (.error fault, grid)
  | .ok (signal, time) =>
      match grid.advance signal (.double time) with
      | (.error fault, next) => (.error fault, next)
      | (.ok (), next) => (.ok ⟨frame, time⟩, next)

end Playback

/-- Playback under way. -/
structure Run (Source : Type) where
  grid : Grid Float Sample Source
  /-- The number of frames taken so far. -/
  taken : Nat
  /-- The number of frames in all. -/
  total : Int
  /-- The reports made so far: frames done, frames in all. -/
  reports : List (Nat × Int)

namespace Run

variable {Source : Type} [RandomSource Source]

/--
A run over the frames of a recording, or over the first ones up to a limit.
-/
def start (playback : Playback) (recording : Recording)
    (grid : Grid Float Sample Source) (limit : Option Int) :
    Except Fault (Run Source) := do
  let count ← recording.frameCount playback.rate
  let total := (limit.map (min count)).getD count
  pure ⟨grid, 0, total, []⟩

/-- The run after a report on the frame that was taken last, if there is one. -/
def report (run : Run Source) : Run Source :=
  if run.taken = 0 then run
  else { run with reports := run.reports ++ [(run.taken, run.total)] }

/-- The next frame, or none when all are taken. -/
def next (playback : Playback) (recording : Recording) (run : Run Source) :
    Outcome (Run Source) (Option FrameMark) :=
  let reported := run.report
  if reported.taken < reported.total then
    match playback.step recording reported.grid (.int reported.taken) with
    | (.error fault, grid) => (.error fault, { reported with grid })
    | (.ok mark, grid) =>
        (.ok (some mark), { reported with grid, taken := reported.taken + 1 })
  else
    (.ok none, reported)

/-- A frame as it was handed out, with the run as it then was. -/
structure Taken (Source : Type) where
  mark : FrameMark
  run : Run Source

/-- Takes up to so many frames, and asks once more at the end. -/
def takeUpTo (playback : Playback) (recording : Recording) :
    Nat → Run Source → Outcome (Run Source) Unit × List (Taken Source)
  | 0, run => ((.ok (), run), [])
  | fuel + 1, run =>
      match run.next playback recording with
      | (.error fault, rest) => ((.error fault, rest), [])
      | (.ok none, rest) => ((.ok (), rest), [])
      | (.ok (some mark), rest) =>
          let (outcome, taken) := takeUpTo playback recording fuel rest
          (outcome, ⟨mark, rest⟩ :: taken)

/-- Takes all frames that are left. -/
def takeAll (playback : Playback) (recording : Recording) (run : Run Source) :
    Outcome (Run Source) Unit × List (Taken Source) :=
  takeUpTo playback recording ((run.total - run.taken).toNat + 1) run

end Run

end SoundGrid
