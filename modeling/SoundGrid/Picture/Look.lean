import SoundGrid.Number.Arithmetic

/-!
# Looks

How a grid is drawn: the size of a cell and the gap around it in pixels, the
colours, and the trace that is left for a while where a cell turned off.  Only
the sizes are checked when a look is made; colours and the trace are taken as
they are given.
-/

namespace SoundGrid

/-- How a grid is drawn. -/
structure Look where
  cellSize : Datum
  gap : Datum
  background : Datum
  on : Datum
  off : Datum
  trace : Datum
  traceAlpha : Datum
  traceDuration : Datum

namespace Look

/-- A colour given by whole numbers. -/
def colour (red green blue : Int) : Datum :=
  .list [.int red, .int green, .int blue]

/-- The look that is used unless another is given. -/
def standard : Look where
  cellSize := .int 24
  gap := .int 1
  background := colour 10 10 10
  on := colour 224 224 224
  off := colour 17 17 17
  trace := colour 255 255 255
  traceAlpha := .double 0.1
  traceDuration := .double 0.5

/-- A datum that has to be a number. -/
def numberOf (given : Datum) : Except Fault Number :=
  match given.number? with
  | some number => .ok number
  | none => .error (.misuse .operands)

/-- Refuses a cell without size, and gaps that leave nothing of a cell. -/
def check (look : Look) : Except Fault Unit := do
  let size ← numberOf look.cellSize
  if size.isAtMost (.int 0) then
    throw (.rejected .cellSize)
  let gaps ← (← numberOf look.gap).mul (.int 2)
  if !(Number.isAtMost (.int 0) gaps && gaps.isBelow size) then
    throw (.rejected .gap)

/-- The look with one field replaced; a name that does not exist is refused. -/
def put (look : Look) (name : Text) (value : Datum) : Except Fault Look :=
  match name.string? with
  | some "cell_size" => .ok { look with cellSize := value }
  | some "gap" => .ok { look with gap := value }
  | some "bg_color" => .ok { look with background := value }
  | some "on_color" => .ok { look with on := value }
  | some "off_color" => .ok { look with off := value }
  | some "trace_color" => .ok { look with trace := value }
  | some "trace_alpha" => .ok { look with traceAlpha := value }
  | some "trace_duration" => .ok { look with traceDuration := value }
  | _ => .error (.misuse .unexpectedField)

/-- The look with some fields replaced, one after the other. -/
def putAll (look : Look) : List (Text × Datum) → Except Fault Look
  | [] => .ok look
  | (name, value) :: rest => do (← look.put name value).putAll rest

/-- The look with the given fields, checked. -/
def ofFields (fields : List (Text × Datum)) : Except Fault Look := do
  let look ← standard.putAll fields
  look.check
  pure look

/-- A look as a record. -/
def toDatum (look : Look) : Datum :=
  .record
    [("cell_size", look.cellSize), ("gap", look.gap),
      ("bg_color", look.background), ("on_color", look.on),
      ("off_color", look.off), ("trace_color", look.trace),
      ("trace_alpha", look.traceAlpha), ("trace_duration", look.traceDuration)]

end Look

/--
The rows and columns of whole cells that fit a viewport of so many pixels;
none for a viewport with negative sides.
-/
def viewportCells (width height cellSize : Int) : Except Fault (Int × Int) :=
  if cellSize ≤ 0 then .error (.rejected .cellSize)
  else .ok (max 0 (height / cellSize), max 0 (width / cellSize))

end SoundGrid
