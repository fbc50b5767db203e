import SoundGrid.Grid.Neighbours
import SoundGrid.Mapping
import SoundGrid.Rule.Standard
import SoundGrid.Settings.Accept

/-!
# Grids

A rectangle of cells that a signal drives frame by frame.  The grid owns all
that the simulation remembers: the cells, the active level, the settings, the
rules in their order, the ripple offset and the random source.

This module builds grids and changes their shape.  A change of shape makes new
cells and keeps everything else.
-/

namespace SoundGrid

/-- A grid of cells. -/
structure Grid (Real Value Source : Type) where
  rows : Nat
  columns : Nat
  cells : Array (Cell Value)
  level : Level
  settings : Settings Real
  rules : List (Rule Real Value Source)
  connectivity : Connectivity
  /-- How far the ripple has come. -/
  offset : Nat
  source : Source

/-- What an operation returns beside the state that it leaves. -/
abbrev Outcome (State Result : Type) := Except Fault Result × State

namespace Grid

variable {Real Value Source : Type}

/-- New cells for a grid with so many rows and columns. -/
def newCells (zero : Value) (rows columns : Nat) : Array (Cell Value) :=
  (Array.range (rows * columns)).map fun (index : Nat) =>
    Cell.fresh zero index columns

/-- Whether a dimension is below zero; only numbers can be asked. -/
def isBelowZero (given : Datum) : Except Fault Bool :=
  match given.number? with
  | some number => .ok (number.isBelow (.int 0))
  | none => .error (.misuse .operands)

/-- The whole part of a dimension that is not below zero. -/
def extent (given : Datum) : Except Fault Nat :=
  match given.number? with
  | some number => number.whole.map Int.toNat
  | none => .error (.misuse .operands)

/-- Refuses dimensions of which one is below zero. -/
def checkDimensions (rows columns : Datum) : Except Fault Unit := do
  let low ← if ← isBelowZero rows then pure true else isBelowZero columns
  if low then throw (.rejected (.dimensions rows columns))

variable [Arithmetic Real Value]

/-- The grid with new cells in a new shape. -/
def layOut (grid : Grid Real Value Source) (rows columns : Nat) :
    Grid Real Value Source :=
  { grid with
    rows, columns
    cells := newCells Arithmetic.zero rows columns }

/--
Gives the grid a new shape.  The rows are set before the columns are looked
at, so columns that are no number leave a grid whose rows do not fit its cells.
-/
def resize (grid : Grid Real Value Source) (rows columns : Datum) :
    Outcome (Grid Real Value Source) Unit :=
  match checkDimensions rows columns with
  | .error fault => (.error fault, grid)
  | .ok () =>
      match extent rows with
      | .error fault => (.error fault, grid)
      | .ok newRows =>
          match extent columns with
          | .error fault => (.error fault, { grid with rows := newRows })
          | .ok newColumns => (.ok (), grid.layOut newRows newColumns)

/-- Clears the cells and the ripple; everything else is kept. -/
def reset (grid : Grid Real Value Source) : Grid Real Value Source :=
  { grid with offset := 0 }.layOut grid.rows grid.columns

/-- A grid without cells. -/
def empty (level : Level) (settings : Settings Real)
    (rules : List (Rule Real Value Source)) (connectivity : Connectivity)
    (source : Source) : Grid Real Value Source :=
  { rows := 0, columns := 0, cells := #[], level, settings, rules, connectivity,
    offset := 0, source }

/--
A new grid; the neighbourhood is checked first, then the level and the shape.
-/
def make (rows columns level connectivity : Datum) (settings : Settings Real)
    (rules : List (Rule Real Value Source)) (source : Source) :
    Except Fault (Grid Real Value Source) := do
  let connectivity ← Connectivity.ofDatum connectivity
  let level ← Level.ofDatum level
  match (empty level settings rules connectivity source).resize rows
      columns with
  | (.ok (), grid) => pure grid
  | (.error fault, _) => throw fault

end Grid

end SoundGrid
