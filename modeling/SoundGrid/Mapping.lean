import SoundGrid.Rule

/-!
# Mapping

How each level turns a sample into the new value and state of a cell.  A
mapping reads the cell, the frame and the number of live neighbours, and it
changes nothing but the random source.

* `direct`: the sample, on above the threshold;
* `opacity`: the sample, always on;
* `smoothed`: a part of the way to the sample, on above the threshold;
* `probabilistic`: the old value, on with a probability;
* `entropy`: the old value, on when a random sample is above the threshold;
* `rules`: what the first rule that holds says;
* `neighborhood`: the sample, on when it is loud and neighbours are few.
-/

namespace SoundGrid

/-- What a mapping may read of a frame. -/
structure Frame (Real Value Source : Type) where
  signal : Array Value
  /-- The signal is read modulo this length. -/
  length : Int
  /-- How far the ripple has come. -/
  offset : Int
  settings : Settings Real
  rules : List (Rule Real Value Source)

namespace Frame

variable {Real Value Source : Type}

/-- The sample for a cell index. -/
def sample (frame : Frame Real Value Source)
    (index : Int) : Except Fault Value :=
  if frame.length = 0 then
    .error (.misuse .divisionByZero)
  else
    pick frame.signal (index.fmod frame.length)

end Frame

namespace Mapping

variable {Real Value Source : Type} [Arithmetic Real Value]
  [RandomSource Source]

open Arithmetic

/-- Level 0. -/
def direct (settings : DirectSettings Real) (sample : Value) :
    Except Fault (Value × Bool) := do
  pure (sample, ← above sample (setting settings.threshold))

/-- Level 1. -/
def opacity (sample : Value) : Value × Bool :=
  (sample, true)

/-- Level 2. -/
def smoothed (settings : SmoothedSettings Real) (current sample : Value) :
    Except Fault (Value × Bool) := do
  let value ← toward current sample (setting settings.smoothing)
  pure (value, ← above value (setting settings.threshold))

/-- Level 3: the fraction is drawn before the sample is scaled. -/
def probabilistic (settings : ProbabilisticSettings Real)
    (current sample : Value) : Chance Source (Value × Bool) := do
  let drawn ← Chance.fraction
  let chance ← Chance.lift (mul sample (setting settings.scale))
  let state ← Chance.lift (less (fraction drawn) chance)
  pure (current, state)

/-- Level 4: the sample is chosen at random, whatever the cell's place. -/
def entropy (settings : EntropySettings Real) (frame : Frame Real Value Source)
    (current : Value) : Chance Source (Value × Bool) := do
  if frame.length ≤ 0 then
    throw (.misuse .emptyRange)
  let chosen ← Chance.below frame.length.toNat
  let sample ← Chance.lift (pick frame.signal chosen)
  let state ← Chance.lift (above sample (setting settings.threshold))
  pure (current, state)

/-- Level 6. -/
def neighborhood (settings : NeighborhoodSettings Real) (sample : Value)
    (state : Bool) (neighbours : Int) : Except Fault (Value × Bool) := do
  let limit : Value := setting settings.neighbourLimit
  let active ← above sample (setting settings.activeThreshold)
  let few ← if active then less (count neighbours) limit else pure false
  if few then
    pure (sample, true)
  else
    let inactive ← less sample (setting settings.inactiveThreshold)
    let many ← if inactive then pure true else above (count neighbours) limit
    pure (sample, if many then false else state)

end Mapping

namespace Level

variable {Real Value Source : Type} [Arithmetic Real Value]
  [RandomSource Source]

/-- The new value and state of a cell at a level. -/
def map (level : Level) (cell : Cell Value) (frame : Frame Real Value Source)
    (neighbours : Int) : Chance Source (Value × Bool) := do
  match level with
  | direct =>
      Chance.lift (Mapping.direct frame.settings.direct
        (← Chance.lift (frame.sample cell.index)))
  | opacity =>
      pure (Mapping.opacity (← Chance.lift (frame.sample cell.index)))
  | smoothed =>
      let sample ← Chance.lift (frame.sample cell.index)
      Chance.lift (Mapping.smoothed frame.settings.smoothed cell.value sample)
  | probabilistic =>
      let sample ← Chance.lift (frame.sample cell.index)
      Mapping.probabilistic frame.settings.probabilistic cell.value sample
  | entropy =>
      Mapping.entropy frame.settings.entropy frame cell.value
  | rules =>
      Rule.step frame.rules cell frame.signal frame.length frame.offset
        neighbours frame.settings.rules
  | neighborhood =>
      let sample ← Chance.lift (frame.sample cell.index)
      Chance.lift
        (Mapping.neighborhood frame.settings.neighborhood sample cell.state
          neighbours)

end Level

end SoundGrid
