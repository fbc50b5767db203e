import SoundGrid.Proofs.Grid.Operation
import SoundGrid.Proofs.Procedure

/-!
# Calls as procedures

What a caller can ask of a grid between frames, and a frame without samples.
Every call is written out as a procedure that makes its demands and its writes
one by one, in the order in which a grid makes them, and `outcome_procedure`
says that all procedures do what the grid does.
-/

namespace SoundGrid.Grid

/-- What a grid is asked for. -/
inductive Call (Value : Type) where
  | resize (rows columns : Datum)
  | setLevel (level : Datum)
  | setParameter (name given level : Datum)
  | assign (key name given : Datum)
  | cellAt (row column : Datum)
  | neighbourCount (cell : Cell Value) (connectivity : Datum)
  | advanceEmpty (now : Number)

/-- What a grid answers. -/
inductive Answer (Value : Type) where
  | done
  | cell (found : Cell Value)
  | count (live : Nat)

section Respond

variable {Value Source : Type} [Arithmetic Float Value] [RandomSource Source]

/-- The answer of an operation, which has no result of its own. -/
def carryOut (grid : Grid Float Value Source) (operation : Operation Value) :
    Outcome (Grid Float Value Source) (Answer Value) :=
  ((grid.perform operation).1.map fun () => .done, (grid.perform operation).2)

/-- The answer to a call and the grid that the call leaves. -/
def respond (grid : Grid Float Value Source) :
    Call Value → Outcome (Grid Float Value Source) (Answer Value)
  | .resize rows columns => grid.carryOut (.resize rows columns)
  | .setLevel level => grid.carryOut (.setLevel level)
  | .setParameter name given level =>
      grid.carryOut (.setParameter name given level)
  | .assign key name given => grid.carryOut (.assign key name given)
  | .cellAt row column => ((grid.cellAt row column).map .cell, grid)
  | .neighbourCount cell connectivity =>
      ((grid.neighbourCount cell connectivity).map .count, grid)
  | .advanceEmpty now => grid.carryOut (.advance #[] now)

end Respond

/-! ## The procedures -/

open Procedure

section Procedures

variable {Real Value Source : Type} [Arithmetic Real Value]

/-- New cells, each of which is refused where there are no columns. -/
def placeCells (zero : Value) (rows columns : Nat) :
    Except Fault (Array (Cell Value)) :=
  (Array.range (rows * columns)).mapM fun (index : Nat) =>
    Cell.place zero index columns

/--
New cells are never refused: where there are no columns there is none to be
placed.
-/
theorem placeCells_eq (zero : Value) (rows columns : Nat) :
    placeCells zero rows columns = .ok (newCells zero rows columns) := by
  cases columns with
  | zero =>
      have none : Array.range 0 = #[] :=
        Array.eq_empty_of_size_eq_zero Array.size_range
      rw [placeCells, newCells, Nat.mul_zero, none, Array.mapM_empty,
        Array.map_empty]
      rfl
  | succ columns =>
      have placed :
          (fun index : Nat => Cell.place zero index (columns + 1 : Nat)) =
          fun index : Nat => (pure (Cell.fresh zero index (columns + 1 : Nat)) :
            Except Fault (Cell Value)) := by
        funext index
        exact if_neg (by omega)
      rw [placeCells, placed, Array.mapM_pure]
      rfl

/-- Sets the rows, then the columns, then the cells. -/
def resizing (rows columns : Datum) :
    Procedure (Grid Real Value Source) (Answer Value) := do
  demand fun _ => checkDimensions rows columns
  let newRows ← demand fun _ => extent rows
  write fun grid => { grid with rows := newRows }
  let newColumns ← demand fun _ => extent columns
  write fun grid => { grid with columns := newColumns }
  let cells ← demand fun grid =>
    placeCells Arithmetic.zero grid.rows grid.columns
  write fun grid => { grid with cells }
  pure .done

/-- Finds the level, then sets it. -/
def levelling (level : Datum) :
    Procedure (Grid Real Value Source) (Answer Value) := do
  let level ← demand fun _ => Level.ofDatum level
  write fun grid => { grid with level }
  pure .done

end Procedures

section Procedures

variable {Value Source : Type}

/--
Finds the set and the parameter, checks the set with its new value, then
replaces it.
-/
def assigning (key name given : Datum) :
    Procedure (Grid Float Value Source) (Answer Value) := do
  let level ← demand fun _ => Settings.levelOf key
  let parameter ← demand fun _ => Settings.parameterOf level name
  let settings ← demand fun grid => grid.settings.assign parameter given
  write fun grid => { grid with settings }
  pure .done

/-- Finds the level first, then goes on as with the key of its set. -/
def assigningAt (name given level : Datum) :
    Procedure (Grid Float Value Source) (Answer Value) := do
  let level ← demand fun grid => grid.levelOr level
  assigning (.text level.key) name given

variable [Arithmetic Float Value] [RandomSource Source]

/-- The demands and the writes of a call. -/
def Call.procedure :
    Call Value → Procedure (Grid Float Value Source) (Answer Value)
  | .resize rows columns => resizing rows columns
  | .setLevel level => levelling level
  | .setParameter name given level => assigningAt name given level
  | .assign key name given => assigning key name given
  | .cellAt row column => demand fun grid => (grid.cellAt row column).map .cell
  | .neighbourCount cell connectivity =>
      demand fun grid => (grid.neighbourCount cell connectivity).map .count
  | .advanceEmpty _ => demand fun _ => .error (.rejected .emptySignal)

variable (grid : Grid Float Value Source)

theorem outcome_resizing (rows columns : Datum) :
    outcome (resizing rows columns) grid =
      grid.carryOut (.resize rows columns) := by
  simp only [resizing, outcome_bind, outcome_demand, outcome_write,
    outcome_pure, placeCells_eq, carryOut, perform, resize]
  cases checkDimensions rows columns with
  | error fault => rfl
  | ok checked =>
      cases extent rows with
      | error fault => rfl
      | ok newRows =>
          cases extent columns with
          | error fault => rfl
          | ok newColumns => rfl

theorem outcome_levelling (level : Datum) :
    outcome (levelling level) grid = grid.carryOut (.setLevel level) := by
  simp only [levelling, outcome_bind, outcome_demand, outcome_write,
    outcome_pure, carryOut, perform, setLevel]
  cases Level.ofDatum level with
  | error fault => rfl
  | ok level => rfl

theorem outcome_assigning (key name given : Datum) :
    outcome (assigning key name given) grid =
      grid.carryOut (.assign key name given) := by
  simp only [assigning, outcome_bind, outcome_demand, outcome_write,
    outcome_pure, carryOut, perform, assign, Settings.write]
  cases Settings.levelOf key with
  | error fault => rfl
  | ok level =>
      dsimp only [bind, Except.bind]
      cases Settings.parameterOf level name with
      | error fault => rfl
      | ok parameter =>
          dsimp only
          cases grid.settings.assign parameter given with
          | error fault => rfl
          | ok settings => rfl

theorem outcome_assigningAt (name given level : Datum) :
    outcome (assigningAt name given level) grid =
      grid.carryOut (.setParameter name given level) := by
  rw [assigningAt, outcome_bind, outcome_demand]
  simp only [outcome_assigning, carryOut, perform, setParameter]
  cases grid.levelOr level with
  | error fault => rfl
  | ok level => rfl

/-- A call does what its demands and writes do. -/
theorem outcome_procedure (call : Call Value) :
    outcome call.procedure grid = grid.respond call := by
  cases call with
  | resize rows columns => exact outcome_resizing grid rows columns
  | setLevel level => exact outcome_levelling grid level
  | setParameter name given level =>
      exact outcome_assigningAt grid name given level
  | assign key name given => exact outcome_assigning grid key name given
  | cellAt row column => rfl
  | neighbourCount cell connectivity => rfl
  | advanceEmpty now => rfl

end Procedures

end SoundGrid.Grid
