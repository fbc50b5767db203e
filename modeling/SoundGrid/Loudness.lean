import SoundGrid.Sample

/-!
# Loudness

A window of sound is made as loud as it is wanted: the magnitudes of its
samples are multiplied by a gain and cut off at 1.  The gain brings the root
mean square of the window to a target, up to a greatest gain; windows that are
nearly silent are left as they are.

The computation is written over a class of arithmetic.  Doubles compute as
they do on the machine, with sums in a fixed order; other instances give the
same computation exactly.
-/

namespace SoundGrid

/-- What levelling does with samples, and with the parameters of the gain. -/
class Metering (Real : outParam Type) (Value : Type) where
  zero : Real
  add : Real → Real → Real
  mul : Real → Real → Real
  /-- A total divided by a count. -/
  share : Real → Nat → Real
  sqrt : Real → Real
  abs : Real → Real
  /-- The nearest number between 0 and 1. -/
  clip : Real → Real
  /-- A real number as an operand. -/
  operand : Real → Value
  /-- The gain that leaves a window as it is. -/
  unity : Value
  atMost : Value → Value → Except Fault Bool
  less : Value → Value → Except Fault Bool
  div : Value → Value → Except Fault Value
  /-- The number that samples are multiplied by. -/
  factor : Value → Except Fault Real
  /-- The form in which a levelled sample is handed on. -/
  output : Real → Value

/-- The parameters of the gain. -/
structure Loudness (Value : Type) where
  /-- The root mean square that the gain aims at. -/
  target : Value
  /-- The greatest gain. -/
  maxGain : Value
  /-- Windows at most this loud are left as they are. -/
  silence : Value

namespace Loudness

section Sum

variable {Real : Type}

/-- The sum of a list from left to right, from a start. -/
def sumFrom (add : Real → Real → Real) (start : Real)
    (values : List Real) : Real :=
  values.foldl add start

/-- The sum of a list from left to right. -/
def plainSum (add : Real → Real → Real) (zero : Real) : List Real → Real
  | [] => zero
  | first :: rest => sumFrom add first rest

/-- Adds eight numbers to eight totals. -/
def addEight (add : Real → Real → Real) : List Real → List Real → List Real :=
  List.zipWith add

/--
The totals of the eight columns of a list in rows of eight, and what is left
over.
-/
def eightTotals (add : Real → Real → Real) (totals : List Real) :
    Nat → List Real → List Real × List Real
  | 0, values => (totals, values)
  | rows + 1, values =>
      eightTotals add (addEight add totals (values.take 8)) rows (values.drop 8)

/-- The sum of eight totals in pairs. -/
def joinEight (add : Real → Real → Real) (zero : Real) : List Real → Real
  | [a, b, c, d, e, f, g, h] =>
      add (add (add a b) (add c d)) (add (add e f) (add g h))
  | totals => plainSum add zero totals

/-- The sum of a list of at least eight numbers by way of eight totals. -/
def blockSum (add : Real → Real → Real) (zero : Real)
    (values : List Real) : Real :=
  let (totals, rest) :=
    eightTotals add (values.take 8) (values.length / 8 - 1) (values.drop 8)
  sumFrom add (joinEight add zero totals) rest

/-- Lists up to this length are summed in one block. -/
def blockLength : Nat := 128

/--
Where a longer list is divided: at half its length, rounded down to eight.
-/
def half (length : Nat) : Nat :=
  length / 2 - length / 2 % 8

/--
The sum of a list, in the order that keeps rounding errors small: short lists
from left to right, blocks by eight totals, longer lists by halves.
-/
def pairwiseSum (add : Real → Real → Real) (zero : Real)
    (values : List Real) : Real :=
  if values.length < 8 then
    plainSum add zero values
  else if values.length ≤ blockLength then
    blockSum add zero values
  else
    add (pairwiseSum add zero (values.take (half values.length)))
      (pairwiseSum add zero (values.drop (half values.length)))
termination_by values.length
decreasing_by
  all_goals simp only [List.length_take, List.length_drop, half,
    blockLength] at *
  all_goals omega

end Sum

variable {Real Value : Type} [Metering Real Value]

open Metering

variable (Value) in
/-- The root mean square of a window, zero for an empty one. -/
def rms (window : List Real) : Real :=
  if window.isEmpty then
    zero Value
  else
    let squares := window.map fun sample => mul Value sample sample
    sqrt Value
      (share Value (pairwiseSum (add Value) (zero Value) squares) window.length)

/-- The gain for a root mean square. -/
def gain (loudness : Loudness Value) (rms : Value) : Except Fault Value := do
  if ← atMost rms loudness.silence then
    pure unity
  else
    let wanted ← div loudness.target rms
    if ← less loudness.maxGain wanted then pure loudness.maxGain
      else pure wanted

/-- A levelled sample. -/
def level (factor sample : Real) : Value :=
  output (clip Value (mul Value (abs Value sample) factor))

/-- The levelled samples of a window, which must not be empty. -/
def normalize (loudness : Loudness Value) (window : List Real) :
    Except Fault (List Value) :=
  if window.isEmpty then
    .error (.rejected .emptyWindow)
  else do
    let gain ← loudness.gain (operand (rms Value window))
    let factor ← factor gain
    pure (window.map (level factor))

end Loudness

namespace Loudness

/--
A double moved between 0 and 1; a NaN and a negative zero stay what they are.
-/
def clipDouble (value : Float) : Float :=
  if value < 0.0 then 0.0
  else if 1.0 < value then 1.0
  else value

/-- The quotient of two plain numbers. -/
def divide : Sample → Sample → Except Fault Sample
  | .plain first, .plain second =>
      match first.number?, second.number? with
      | some first, some second => (first.div second).map Sample.ofDouble
      | _, _ => .error (.misuse .operands)
  | _, _ => .error (.misuse .operands)

/-- The double that a plain number multiplies doubles by. -/
def multiplier : Sample → Except Fault Float
  | .plain given =>
      match given.number? with
      | some number => number.toDouble
      | none => .error (.misuse .operands)
  | other => other.toDouble

instance : Metering Float Sample where
  zero := 0.0
  add := (· + ·)
  mul := (· * ·)
  share total count := total / Number.Double.ofNat count
  sqrt := Float.sqrt
  abs := Float.abs
  clip := clipDouble
  operand := Sample.ofDouble
  unity := Sample.ofDouble 1.0
  atMost := Sample.lessOrSame
  less := Sample.less
  div := divide
  factor := multiplier
  output value := .single (Number.Single.ofDouble value)

/-- The parameters that are used unless others are given. -/
def standard : Loudness Sample where
  target := Sample.ofDouble 0.15
  maxGain := Sample.ofDouble 3.0
  silence := Sample.ofDouble 0.01

/-- The window of unsigned bytes as samples around zero; 128 is silence. -/
def centre (window : List Float) : List Float :=
  window.map fun byte => (byte - 128.0) / 128.0

/-- The parameters with given values; a name that does not exist is refused. -/
def ofFields : List (Text × Datum) → Except Fault (Loudness Sample)
  | [] => .ok standard
  | (name, value) :: rest => do
      let others ← ofFields rest
      match name.string? with
      | some "target_rms" => pure { others with target := .plain value }
      | some "max_gain" => pure { others with maxGain := .plain value }
      | some "silence_rms" => pure { others with silence := .plain value }
      | _ => throw (.misuse .unexpectedField)

end Loudness

end SoundGrid
