import SoundGrid.Grid

/-!
# Controls and queries

Everything that can be asked of a grid or changed in it between frames: the
level, the parameters, the order of the rules, single cells and their
neighbours.
-/

namespace SoundGrid.Grid

variable {Real Value Source : Type}

/-- Makes a level the active one. -/
def setLevel (grid : Grid Real Value Source) (given : Datum) :
    Except Fault (Grid Real Value Source) :=
  (Level.ofDatum given).map fun level => { grid with level }

/-- The level that is asked for, or else the active one. -/
def levelOr (grid : Grid Real Value Source) : Datum → Except Fault Level
  | .null => .ok grid.level
  | given => Level.ofDatum given

/-- Reads a parameter of the active level or of a given one. -/
def readParameter (grid : Grid Float Value Source) (name level : Datum) :
    Except Fault Number := do
  let level ← grid.levelOr level
  grid.settings.read (.text level.key) name

/-- Replaces a parameter by the key of its set and its name. -/
def assign (grid : Grid Float Value Source) (key name given : Datum) :
    Except Fault (Grid Float Value Source) :=
  (grid.settings.write key name given).map fun settings =>
    { grid with settings }

/-- Replaces a parameter of the active level or of a given one. -/
def setParameter (grid : Grid Float Value Source) (name given level : Datum) :
    Except Fault (Grid Float Value Source) := do
  let level ← grid.levelOr level
  grid.assign (.text level.key) name given

/-- Settings belong to their grid for good; only their parameters change. -/
def replaceSettings (_ : Grid Real Value Source) (_ : Settings Real) :
    Except Fault (Grid Real Value Source) :=
  .error (.misuse .fixedMember)

/-- Puts the rules in a random order. -/
def shuffleRules [RandomSource Source] (grid : Grid Real Value Source) :
    Grid Real Value Source :=
  let (rules, source) := Rule.shuffle grid.rules grid.source
  { grid with rules, source }

/-- Draws a fraction from the grid's source. -/
def draw [RandomSource Source] (grid : Grid Real Value Source) :
    Fraction × Grid Real Value Source :=
  let (drawn, source) := RandomSource.fraction grid.source
  (drawn, { grid with source })

/-- Whether a coordinate is a number from zero to below a bound. -/
def isWithin (given : Datum) (bound : Nat) : Except Fault Bool :=
  match given.number? with
  | none => .error (.misuse .operands)
  | some number =>
      .ok (Number.isAtMost (.int 0) number && number.isBelow (.int bound))

/-- The cell at a row and a column. -/
def cellAt (grid : Grid Real Value Source) (row column : Datum) :
    Except Fault (Cell Value) := do
  let rowWithin ← isWithin row grid.rows
  let within ← if rowWithin then isWithin column grid.columns else pure false
  if within then
    match row.number?, column.number? with
    | some (.int row), some (.int column) =>
        pick grid.cells (row * grid.columns + column)
    | _, _ => throw (.misuse .operands)
  else
    throw (.rejected (.cellOutside row column grid.rows grid.columns))

/--
How many neighbours of a cell are on, in the grid's or a given connectivity.
-/
def neighbourCount (grid : Grid Real Value Source) (cell : Cell Value)
    (connectivity : Datum) : Except Fault Nat := do
  let connectivity ←
    match connectivity with
    | .null => pure grid.connectivity
    | given => Connectivity.ofDatum given
  Neighbours.live connectivity grid.rows grid.columns grid.cells cell

/-- A grid in one line. -/
def summary (grid : Grid Real Value Source) : String :=
  s!"Grid(rows={grid.rows}, columns={grid.columns}, level={grid.level.name})"

end SoundGrid.Grid
