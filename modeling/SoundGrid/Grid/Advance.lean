import SoundGrid.Grid

/-!
# Advancing a grid

One frame maps a signal onto the cells.  The cells are visited by ascending
index, and each is mapped on its own: it sees the new states of the cells
before it and the old states of those behind it.  Only when the last cell is
mapped are switch-offs stamped and the ripple moved on.  When a cell cannot be
mapped the sweep stops there: the cells before it keep what the frame gave
them, and no switch-off is stamped.
-/

namespace SoundGrid.Grid

variable {Real Value Source : Type} [Arithmetic Real Value]
  [RandomSource Source]

/-- What a grid hands its mapping for a signal. -/
def frame (grid : Grid Real Value Source) (signal : Array Value) :
    Frame Real Value Source where
  signal := signal
  length := signal.size
  offset := grid.offset % signal.size
  settings := grid.settings
  rules := grid.rules

/-- The live neighbours of a cell, as far as a level reads them. -/
def seenNeighbours (level : Level) (connectivity : Connectivity)
    (rows columns : Nat) (cells : Array (Cell Value))
    (cell : Cell Value) : Except Fault Nat :=
  if level.readsNeighbours then
    Neighbours.live connectivity rows columns cells cell
  else
    .ok 0

/-- The cell that a frame makes of a cell among its neighbours. -/
def mapCell (grid : Grid Real Value Source) (frame : Frame Real Value Source)
    (cells : Array (Cell Value)) (cell : Cell Value) :
    Chance Source (Cell Value) := do
  let neighbours ← Chance.lift
    (seenNeighbours grid.level grid.connectivity grid.rows grid.columns
      cells cell)
  let (value, state) ← grid.level.map cell frame neighbours
  let stored ← Chance.lift (Arithmetic.store value)
  pure (cell.put stored state)

/--
Maps the last `remaining` cells in order.  The array always holds the new
cells in front and the old ones behind.
-/
def sweepLast (grid : Grid Real Value Source)
    (frame : Frame Real Value Source) :
    Nat → Array (Cell Value) → Source →
    Option Fault × Array (Cell Value) × Source
  | 0, cells, source => (none, cells, source)
  | remaining + 1, cells, source =>
      let position := cells.size - (remaining + 1)
      match cells[position]? with
      | none => (none, cells, source)
      | some cell =>
          let kept := cell.keepValue
          let marked := cells.setIfInBounds position kept
          match mapCell grid frame marked kept source with
          | .error fault rest => (some fault, marked, rest)
          | .ok mapped rest =>
              sweepLast grid frame remaining
                (marked.setIfInBounds position mapped) rest

/-- Maps all cells in order. -/
def sweep (grid : Grid Real Value Source) (signal : Array Value) :
    Option Fault × Array (Cell Value) × Source :=
  sweepLast grid (grid.frame signal) grid.cells.size grid.cells grid.source

/-- Advances the grid by one frame that carries a time. -/
def advance (grid : Grid Real Value Source) (signal : Array Value)
    (now : Number) : Outcome (Grid Real Value Source) Unit :=
  if signal.isEmpty then
    (.error (.rejected .emptySignal), grid)
  else
    match grid.sweep signal with
    | (some fault, cells, source) => (.error fault, { grid with cells, source })
    | (none, cells, source) =>
        let offset :=
          (grid.offset + grid.settings.rules.rippleSpeed) % signal.size
        (.ok (),
          { grid with cells := cells.map (Cell.settle now), source, offset })

end SoundGrid.Grid
