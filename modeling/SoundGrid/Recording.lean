import SoundGrid.Number.Arithmetic
import SoundGrid.Signal.Format
import SoundGrid.Signal.Slice

/-!
# Recordings

Sound in memory, cut into one window per frame.  The window of a frame starts
at the sample that belongs to the frame's time and has a fixed length; behind
the end of the sound it is filled up with silence.  Samples that were given
without a format are put into an array when silence is added to them.
-/

namespace SoundGrid

/-- Samples of a format, at a rate. -/
structure Recording where
  format : SampleFormat
  samples : Array Sample
  rate : Number

namespace Recording

/-- How long the sound lasts, in seconds. -/
def duration (recording : Recording) : Except Fault Float := do
  let rate ← recording.rate.toDouble
  Number.div (.int recording.samples.size) (.double rate)

/-- The least integer that is not below a double. -/
def ceiling (number : Float) : Except Fault Int :=
  match Number.Double.ceiling? number with
  | some ceiling => .ok ceiling
  | none =>
      .error (.misuse (if number.isNaN then .undefinedInteger else .tooLarge))

/-- How many frames it takes to cover the sound. -/
def frameCount (recording : Recording) (rate : Number) : Except Fault Int := do
  let duration ← recording.duration
  let rate ← rate.toDouble
  ceiling (duration * rate)

/-- The sample at which the window of a frame starts. -/
def startOf (recording : Recording)
    (frame rate : Number) : Except Fault Int := do
  let position ← frame.mul recording.rate
  Number.whole (.double (← position.div rate))

/-- The samples between two positions, counted from the end when negative. -/
def between (recording : Recording) (start stop : Int) : Array Sample :=
  let size : Int := recording.samples.size
  let first := Slice.clip 0 size size start
  let last := Slice.clip 0 size size stop
  recording.samples.extract first.toNat last.toNat

/-- A part of a recording, in its format. -/
structure Window where
  format : SampleFormat
  samples : Array Sample

/-- The format of a window to which silence is added. -/
def filledFormat (recording : Recording)
    (samples : Array Sample) : SampleFormat :=
  match recording.format with
  | .plain => .ofSamples samples.toList
  | format => format

/--
Refuses silence that cannot be counted, and windows whose bytes cannot be
counted.
-/
def checkSilence (format : SampleFormat)
    (silence length : Int) : Except Fault Unit :=
  if countLimit ≤ silence then .error (.misuse .operands)
  else if countLimit ≤ length * format.bytes then
    .error (.misuse .tooManyPlaces)
  else .ok ()

/-- Samples filled up with silence to a length. -/
def fill (recording : Recording) (samples : Array Sample) (length : Int) :
    Except Fault Window := do
  if samples.size < length then
    let format := recording.filledFormat samples
    let converted ← samples.toList.mapM format.convert
    checkSilence format (length - samples.size) length
    let silence := List.replicate (length - samples.size).toNat format.silence
    pure ⟨format, (converted ++ silence).toArray⟩
  else
    pure ⟨recording.format, samples⟩

/-- The window of a frame. -/
def window (recording : Recording) (frame rate : Number) (length : Int) :
    Except Fault Window := do
  let start ← recording.startOf frame rate
  recording.fill (recording.between start (start + length)) length

/-- The windows of some frames in a row. -/
def windowsFrom (recording : Recording) (rate : Number) (length : Int) :
    Nat → Nat → Except Fault (List Window)
  | _, 0 => .ok []
  | frame, count + 1 => do
      let window ← recording.window (.int frame) rate length
      let rest ← recording.windowsFrom rate length (frame + 1) count
      pure (window :: rest)

/-- The windows of all frames. -/
def windows (recording : Recording) (rate : Number) (length : Int) :
    Except Fault (List Window) := do
  let count ← recording.frameCount rate
  recording.windowsFrom rate length 0 count.toNat

end Recording

end SoundGrid
