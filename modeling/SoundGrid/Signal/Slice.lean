import SoundGrid.Fault

/-!
# Slices

A slice picks positions of a sequence: from a start to a stop, in steps that
may go backward.  Bounds below zero count from the end, bounds beyond the
sequence are cut off, and a bound that is left out lies at the end that the
steps come from or go to.
-/

namespace SoundGrid

/-- The bounds and the step of a slice. -/
structure Slice where
  start : Option Int
  stop : Option Int
  step : Option Int

namespace Slice

/--
A bound moved into the range from `low` to `high`, counted from the end when
negative.
-/
def clip (low high length bound : Int) : Int :=
  if bound < 0 then max low (bound + length) else min high bound

/-- The number of steps from a start to a stop. -/
def count (start stop step : Int) : Nat :=
  if 0 < step then ((stop - start + step - 1) / step).toNat
  else ((start - stop - step - 1) / (-step)).toNat

/-- The positions that a slice picks from a sequence of so many items. -/
def positions (slice : Slice) (length : Nat) : Except Fault (List Int) :=
  let step := slice.step.getD 1
  if step = 0 then
    .error (.misuse .zeroStep)
  else
    let forward := decide (0 < step)
    let low : Int := if forward then 0 else -1
    let high : Int := if forward then length else length - 1
    let start := (slice.start.map (clip low high length)).getD
      (if forward then low else high)
    let stop := (slice.stop.map (clip low high length)).getD
      (if forward then high else low)
    .ok ((List.range (count start stop step)).map fun (taken : Nat) =>
      start + taken * step)

end Slice

end SoundGrid
