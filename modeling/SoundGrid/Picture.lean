import SoundGrid.Picture.Shade

/-!
# Pictures

A grid drawn in pixels.  Every cell is a square in its colour, and the pixels
of its rim belong to the gap, which has the background colour.  Channels are
cut off at 0 and 255 and lose their fraction.
-/

namespace SoundGrid

/-- A pixel by its three channels. -/
abbrev Pixel := Colour UInt8

/-- Rows of pixels, each of the same width. -/
structure Picture where
  width : Nat
  height : Nat
  rows : Array (Array Pixel)

namespace Picture

/-- A channel cut off at 0 and 255, without its fraction; a NaN is 0. -/
def byteOf (channel : Float32) : UInt8 :=
  channel.toUInt8

/-- A colour as a pixel. -/
def pixelOf (colour : Colour Float32) : Pixel :=
  colour.map byteOf

/-- The rim of a cell: which distances from its edge belong to the gap. -/
def rim (pixels : Nat) (size gap : Number) : Except Fault (Array Bool) := do
  let inner ← Number.sub size gap
  pure ((Array.range pixels).map fun (distance : Nat) =>
    Number.isBelow (.int distance) gap || Number.isAtMost inner (.int distance))

/--
Whether a position belongs to the gap around cells of a size; without a rim none
does.
-/
def inGap (size : Nat) (rim : Array Bool) (position : Nat) : Bool :=
  rim.getD (position % size) false

/-- The pixels of one line through a row of cells. -/
def line (size : Nat) (rim : Array Bool) (background : Pixel)
    (cells : Array Pixel) : Array Pixel :=
  (Array.range (cells.size * size)).map fun position =>
    if inGap size rim position then background
    else cells.getD (position / size) background

/-- The pixels of a line that runs through the gap. -/
def gapLine (background : Pixel) (width : Nat) : Array Pixel :=
  Array.replicate width background

/-- The lines of the picture of a grid with at least one row. -/
def lines (size : Nat) (rim : Array Bool) (background : Pixel)
    (rows columns : Nat) (cells : Array Pixel) : Array (Array Pixel) :=
  let bands := (Array.range rows).map fun row =>
    line size rim background
      (cells.extract (row * columns) (row * columns + columns))
  let gap := gapLine background (columns * size)
  (Array.range (rows * size)).map fun position =>
    if inGap size rim position then gap else bands.getD (position / size) gap

/-- The picture of a grid of cells with the given size and rim. -/
def paint (size : Nat) (rim : Array Bool) (background : Pixel)
    (rows columns : Nat) (cells : Array Pixel) : Picture where
  width := columns * size
  height := rows * size
  rows := if rows = 0 then #[] else lines size rim background rows columns cells

end Picture

namespace Look

/-- The bytes that a channel takes up while a picture is made. -/
def channelBytes : Nat := 4

/--
Refuses rows and columns of so many channels that their bytes cannot be counted.
-/
def checkPlaces (rows columns : Nat) : Except Fault Unit :=
  if max 1 rows * max 1 columns * 3 * channelBytes < countLimit then .ok ()
  else .error (.misuse .tooManyPlaces)

/-- The size of a cell in whole pixels. -/
def pixels (look : Look) : Except Fault Nat := do
  let size ← (← numberOf look.cellSize).whole
  if size < countLimit then pure size.toNat else throw (.misuse .tooLarge)

/-- The width and the height of the picture of a grid. -/
def frameSize {Real Value Source : Type} (look : Look)
    (grid : Grid Real Value Source) : Except Fault (Number × Number) := do
  let size ← numberOf look.cellSize
  pure (← Number.mul (.int grid.columns) size,
    ← Number.mul (.int grid.rows) size)

/-- A colour for places without a cell. -/
def blank : Colour Float32 :=
  ⟨0.0, 0.0, 0.0⟩

/-- The colours of the cells of a grid at a time. -/
def colours {Source : Type} (look : Look) (grid : Grid Float Sample Source)
    (now : Number) : Except Fault (Array (Colour Float32)) := do
  let palette ← look.palette
  checkPlaces grid.rows grid.columns
  palette.shades grid now blank

/--
The rim of every cell and the colour of the gap, when there is one and a pixel
to draw.  The rim of a cell whose size is not whole does not fit its pixels.
-/
def edge (look : Look) (pixels places : Nat) :
    Except Fault (Array Bool × Colour Float32) := do
  let size ← numberOf look.cellSize
  let gap ← numberOf look.gap
  if gap.isAtMost (.int 0) || places * pixels = 0 then
    pure (#[], blank)
  else if size.same (.int pixels) then
    let rim ← Picture.rim pixels size gap
    let background ← (← swatchOf look.background).colour
    pure (rim, background)
  else
    throw (.misuse .indexOutside)

/-- The picture of a grid at a time. -/
def render {Source : Type} (look : Look) (grid : Grid Float Sample Source)
    (now : Number) : Except Fault Picture := do
  let colours ← look.colours grid now
  let pixels ← look.pixels
  checkPlaces (grid.rows * pixels) (grid.columns * pixels)
  let (rim, background) ← look.edge pixels (grid.rows * grid.columns)
  pure (Picture.paint pixels rim (Picture.pixelOf background) grid.rows
    grid.columns (colours.map Picture.pixelOf))

end Look

end SoundGrid
