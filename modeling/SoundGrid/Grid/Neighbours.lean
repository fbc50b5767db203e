import SoundGrid.Cell
import SoundGrid.Signal.View

/-!
# Neighbours

The neighbours of a place are the places next to it, in the four directions
or also diagonally.  Places outside the grid do not count; nothing wraps
around.
-/

namespace SoundGrid

/-- Which places are next to each other. -/
inductive Connectivity where
  /-- Left, right, up and down. -/
  | orthogonal
  /-- The diagonals as well. -/
  | diagonal
deriving DecidableEq

namespace Connectivity

/-- The distances in rows and columns to the places that share a side. -/
def sides : List (Int × Int) :=
  [(-1, 0), (1, 0), (0, -1), (0, 1)]

/-- The distances in rows and columns to the places that share a corner only. -/
def corners : List (Int × Int) :=
  [(-1, -1), (1, -1), (-1, 1), (1, 1)]

/-- The distances in rows and columns to all neighbours. -/
def steps : Connectivity → List (Int × Int)
  | orthogonal => sides
  | diagonal => sides ++ corners

/-- The connectivity with a number of neighbours: 4 or 8. -/
def ofNumber? (given : Number) : Option Connectivity :=
  if given.same (.int 4) then some orthogonal
  else if given.same (.int 8) then some diagonal
  else none

/-- The number of neighbours that a datum asks for, which has to be 4 or 8. -/
def numberOf (given : Datum) : Except Fault (Number × Connectivity) :=
  match given.number? with
  | none => .error (.rejected (.connectivity given))
  | some number =>
      match ofNumber? number with
      | some connectivity => .ok (number, connectivity)
      | none => .error (.rejected (.connectivity given))

/-- The connectivity that a datum asks for. -/
def ofDatum (given : Datum) : Except Fault Connectivity :=
  (numberOf given).map Prod.snd

end Connectivity

namespace Neighbours

variable {Value : Type}

/-- Whether a place lies in the grid. -/
def inside (rows columns : Nat) (row column : Int) : Bool :=
  0 ≤ row && row < rows && 0 ≤ column && column < columns

/-- How many of the places at the given distances are on. -/
def countOn (rows columns : Nat) (cells : Array (Cell Value))
    (row column : Int) : List (Int × Int) → Except Fault Nat
  | [] => .ok 0
  | (down, right) :: rest =>
      let nextRow := row + down
      let nextColumn := column + right
      if inside rows columns nextRow nextColumn then do
        let cell ← pick cells (nextRow * columns + nextColumn)
        let others ← countOn rows columns cells row column rest
        pure (if cell.state then others + 1 else others)
      else
        countOn rows columns cells row column rest

/-- How many neighbours of a cell are on. -/
def live (connectivity : Connectivity) (rows columns : Nat)
    (cells : Array (Cell Value)) (cell : Cell Value) : Except Fault Nat :=
  countOn rows columns cells cell.row cell.column connectivity.steps

end Neighbours

end SoundGrid
