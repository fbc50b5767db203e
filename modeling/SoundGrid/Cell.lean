import SoundGrid.Fault

/-!
# Cells

A cell has a place in a row-major grid, a value, and a state that is on or
off.  It also keeps the value from before the current frame, the state at the
end of the last completed frame, and the time at which it last turned off.
-/

namespace SoundGrid

/-- A cell of a grid. -/
structure Cell (Value : Type) where
  index : Int
  row : Int
  column : Int
  value : Value
  state : Bool
  previousValue : Value
  previousState : Bool
  lastOff : Option Number

namespace Cell

variable {Value : Type}

/-- The new cell at a position of a row-major grid with so many columns. -/
def fresh (zero : Value) (index columns : Int) : Cell Value where
  index := index
  row := index.fdiv columns
  column := index.fmod columns
  value := zero
  state := false
  previousValue := zero
  previousState := false
  lastOff := none

/-- The new cell at a position, refused where there are no columns. -/
def place (zero : Value) (index columns : Int) : Except Fault (Cell Value) :=
  if columns = 0 then .error (.misuse .divisionByZero)
  else .ok (Cell.fresh zero index columns)

/-- Whether the cell was on before and is off now. -/
def turnedOff (cell : Cell Value) : Bool :=
  cell.previousState && !cell.state

/-- The cell with its value kept as the previous one. -/
def keepValue (cell : Cell Value) : Cell Value :=
  { cell with previousValue := cell.value }

/-- The cell with a new value and state. -/
def put (cell : Cell Value) (value : Value) (state : Bool) : Cell Value :=
  { cell with value, state }

/--
The cell at the end of a frame: a switch-off is stamped with the frame's time.
-/
def settle (now : Number) (cell : Cell Value) : Cell Value :=
  { cell with
    lastOff := if cell.turnedOff then some now else cell.lastOff
    previousState := cell.state }

end Cell

end SoundGrid
