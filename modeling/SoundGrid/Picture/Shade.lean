import SoundGrid.Grid
import SoundGrid.Picture.Look
import SoundGrid.Signal.Format

/-!
# Shades

The colour of every cell.  At the opacity level a cell is a blend of the
background and the colour of lit cells, by its value times the gain.  At the
other levels it has the colour of its state, except that a cell that turned
off a short time ago shows a trace.

A colour can be given with any number of channels.  Colours blend channel by
channel, where a single channel counts for all, and whether a colour fits a
cell is only asked when a cell takes it.

Blending is written over a class of arithmetic: pictures are computed in
single precision, exact statements with rationals.
-/

namespace SoundGrid

/-- Blending: weights are made of values, channels are weighted and added. -/
class Blending (Channel : outParam Type) (Value : Type) where
  /-- The full weight. -/
  one : Value
  /-- A time as a value. -/
  time : Number → Value
  /-- A value as a weight. -/
  weight : Value → Except Fault Channel
  add : Channel → Channel → Channel
  mul : Channel → Channel → Channel

/-- A colour by its three channels. -/
structure Colour (Channel : Type) where
  red : Channel
  green : Channel
  blue : Channel
deriving DecidableEq

namespace Colour

variable {Channel : Type}

/-- A colour with every channel changed alike. -/
def map {Other : Type} (change : Channel → Other)
    (colour : Colour Channel) : Colour Other :=
  ⟨change colour.red, change colour.green, change colour.blue⟩

end Colour

/-- A colour as it is given, by any number of channels. -/
structure Swatch (Channel : Type) where
  channels : List Channel

namespace Swatch

variable {Channel : Type}

/-- The swatch of a colour. -/
def ofColour (colour : Colour Channel) : Swatch Channel :=
  ⟨[colour.red, colour.green, colour.blue]⟩

/-- A swatch with every channel changed alike. -/
def map (change : Channel → Channel)
    (swatch : Swatch Channel) : Swatch Channel :=
  ⟨swatch.channels.map change⟩

/--
Joins two swatches channel by channel; a single channel is joined with all
others.
-/
def join (operation : Channel → Channel → Channel)
    (first second : Swatch Channel) : Except Fault (Swatch Channel) :=
  match first.channels, second.channels with
  | [one], others => .ok ⟨others.map (operation one)⟩
  | others, [one] => .ok ⟨others.map fun channel => operation channel one⟩
  | firsts, seconds =>
      if firsts.length = seconds.length then
        .ok ⟨List.zipWith operation firsts seconds⟩
      else .error (.misuse .misfit)

/--
The colour that a swatch gives a cell: three channels, or one that counts for
all.
-/
def colour (swatch : Swatch Channel) : Except Fault (Colour Channel) :=
  match swatch.channels with
  | [red, green, blue] => .ok ⟨red, green, blue⟩
  | [one] => .ok ⟨one, one, one⟩
  | _ => .error (.misuse .misfit)

@[simp]
theorem colour_ofColour (colour : Colour Channel) :
    (ofColour colour).colour = .ok colour :=
  rfl

end Swatch

/-- The colours of a look, ready to be blended. -/
structure Palette (Channel Value : Type) where
  background : Swatch Channel
  on : Swatch Channel
  off : Swatch Channel
  /-- The colour of a trace, already blended with the background. -/
  trace : Swatch Channel
  traceDuration : Value

namespace Palette

variable {Real Value Channel Source : Type} [Arithmetic Real Value]
  [Blending Channel Value]

/-- Two colours in the proportions that a weight gives the second. -/
def blend (first second : Swatch Channel) (alpha : Value) :
    Except Fault (Swatch Channel) := do
  let rest ← Arithmetic.sub (Blending.one : Value) alpha
  let firstWeight ← Blending.weight rest
  let secondWeight ← Blending.weight alpha
  Swatch.join (Blending.add Value)
    (first.map fun channel => Blending.mul Value channel firstWeight)
    (second.map fun channel => Blending.mul Value channel secondWeight)

/-- The nearest value between zero and the full weight. -/
def clamp (value : Value) : Except Fault Value := do
  let low ← Arithmetic.less value Arithmetic.zero
  let raised := if low then Arithmetic.zero else value
  let high ← Arithmetic.less (Blending.one : Value) raised
  pure (if high then Blending.one else raised)

/-- The colour of a cell whose value is its opacity. -/
def opacity (palette : Palette Channel Value) (gain : Real)
    (cell : Cell Value) : Except Fault (Swatch Channel) := do
  let scaled ← Arithmetic.mul cell.value (Arithmetic.setting gain)
  blend palette.background palette.on (← clamp scaled)

/-- Whether a cell turned off less than the duration of a trace ago. -/
def isTraced (palette : Palette Channel Value) (now : Number)
    (cell : Cell Value) : Except Fault Bool :=
  match cell.lastOff with
  | none => .ok false
  | some lastOff => do
      let elapsed ← Arithmetic.sub (Blending.time now : Value)
        (Blending.time lastOff)
      Arithmetic.less elapsed palette.traceDuration

/-- The colour of a cell that is on or off. -/
def state (palette : Palette Channel Value) (now : Number) (cell : Cell Value) :
    Except Fault (Swatch Channel) := do
  if cell.state then
    pure palette.on
  else if ← palette.isTraced now cell then
    pure palette.trace
  else
    pure palette.off

/-- The colour of a cell at a level. -/
def shade (palette : Palette Channel Value) (level : Level) (gain : Real)
    (now : Number) (cell : Cell Value) : Except Fault (Swatch Channel) :=
  match level with
  | .opacity => palette.opacity gain cell
  | _ => palette.state now cell

/--
A coordinate of a grid with so many places in a row; below zero it counts from
the end.
-/
def place (size : Nat) (coordinate : Int) : Except Fault Nat :=
  if 0 ≤ coordinate ∧ coordinate < size then .ok coordinate.toNat
  else if coordinate < 0 ∧ 0 ≤ coordinate + size then
    .ok (coordinate + size).toNat
  else .error (.misuse .indexOutside)

/--
The colours of some cells, put at their places in a grid of so many rows and
columns.
-/
def shadeAll (palette : Palette Channel Value) (level : Level) (gain : Real)
    (now : Number) (rows columns : Nat) :
    List (Cell Value) → Array (Colour Channel) →
    Except Fault (Array (Colour Channel))
  | [], colours => .ok colours
  | cell :: rest, colours => do
      let swatch ← palette.shade level gain now cell
      let row ← place rows cell.row
      let column ← place columns cell.column
      let colour ← swatch.colour
      palette.shadeAll level gain now rows columns rest
        (colours.setIfInBounds (row * columns + column) colour)

/--
The colours of the cells of a grid, row by row; a place without a cell has the
given one.
-/
def shades (palette : Palette Channel Value) (grid : Grid Real Value Source)
    (now : Number) (blank : Colour Channel) :
    Except Fault (Array (Colour Channel)) :=
  palette.shadeAll grid.level grid.settings.opacity.gain now
    grid.rows grid.columns grid.cells.toList
    (Array.replicate (grid.rows * grid.columns) blank)

end Palette

namespace Sample

/-- The single that a number stands for as a weight or a channel. -/
def toSingle (sample : Sample) : Except Fault Float32 :=
  match sample with
  | single value => .ok value
  | plain given =>
      match given.number? with
      | some number => number.toDouble.map Number.Single.ofDouble
      | none => .error (.misuse .operands)
  | other => other.toDouble.map Number.Single.ofDouble

instance : Blending Float32 Sample where
  one := ofDouble 1.0
  time now := plain (.ofNumber now)
  weight := toSingle
  add := (· + ·)
  mul := (· * ·)

end Sample

namespace Look

/-- The channel that a datum stands for. -/
def channel (given : Datum) : Except Fault Float32 :=
  (SampleFormat.element given).map Number.Single.ofDouble

/-- The colour that a datum stands for: a list of channels, or one channel. -/
def swatchOf : Datum → Except Fault (Swatch Float32)
  | .list [.list channels] => swatchOf (.list channels)
  | .list channels => do pure ⟨← channels.mapM channel⟩
  | given => do pure ⟨[← channel given]⟩

/-- The palette of a look. -/
def palette (look : Look) : Except Fault (Palette Float32 Sample) := do
  let background ← swatchOf look.background
  let on ← swatchOf look.on
  let off ← swatchOf look.off
  let trace ← swatchOf look.trace
  let trace ← Palette.blend background trace (Sample.plain look.traceAlpha)
  pure ⟨background, on, off, trace, .plain look.traceDuration⟩

end Look

end SoundGrid
