import SoundGrid.Rule
import SoundGrid.Sample

/-!
# Formulas

Conditions as data: comparisons of terms, joined by and, or and not, constants,
and refusals.  A formula draws nothing.  And and or are evaluated from left to
right and stop as soon as they are decided.
-/

namespace SoundGrid

/-- The attributes of a cell that a term can name. -/
inductive CellField where
  | index
  | row
  | column
  | value
  | state
  | previousValue
  | previousState
  | lastOff
deriving DecidableEq

namespace CellField

/-- An attribute of a cell as a sample. -/
def read (cell : Cell Sample) : CellField → Sample
  | index => .ofInt cell.index
  | row => .ofInt cell.row
  | column => .ofInt cell.column
  | value => cell.value
  | state => .plain (.bool cell.state)
  | previousValue => cell.previousValue
  | previousState => .plain (.bool cell.previousState)
  | lastOff => .plain ((cell.lastOff.map Datum.ofNumber).getD .null)

end CellField

/-- What can be compared. -/
inductive Term where
  | constant (value : Datum)
  /-- The sample at the cell's own place. -/
  | own
  /-- The sample at a position, counted from the end when negative. -/
  | sample (position : Int)
  /-- The sum of the samples that a slice picks, from left to right. -/
  | sum (slice : Slice)
  /-- The number of samples. -/
  | length
  /-- The number of live neighbours. -/
  | neighbours
  /-- An attribute of the cell. -/
  | cell (field : CellField)

namespace Term

/-- Adds samples to a total, from left to right. -/
def addAll (total : Sample) : List Sample → Except Fault Sample
  | [] => .ok total
  | value :: rest => do addAll (← total.add value) rest

/-- The value of a term. -/
def eval (reading : Reading Float Sample) : Term → Except Fault Sample
  | constant value => .ok (.plain value)
  | own => reading.own
  | sample position => reading.heard.get position
  | sum slice => do addAll (.ofInt 0) (← reading.heard.slice slice)
  | length => .ok (.ofInt reading.heard.size)
  | neighbours => .ok (.ofInt reading.neighbours)
  | cell field => .ok (field.read reading.cell)

end Term

/-- The ways to compare two terms. -/
inductive Relation where
  | below
  | atMost
  | above
  | atLeast
  | equal
  | different
deriving DecidableEq

namespace Relation

/-- Whether two samples stand in a relation. -/
def test (first second : Sample) : Relation → Except Fault Bool
  | below => first.less second
  | atMost => first.lessOrSame second
  | above => second.less first
  | atLeast => second.lessOrSame first
  | equal => first.same second
  | different => (first.same second).map not

end Relation

/-- A condition as data. -/
inductive Formula where
  | constant (value : Datum)
  | compare (relation : Relation) (first second : Term)
  | every (parts : List Formula)
  | some (parts : List Formula)
  | not (part : Formula)
  | refuse (category : Category) (text : String)

namespace Formula

instance : Inhabited Formula := ⟨constant .null⟩

mutual

/-- Whether a formula holds. -/
def eval (reading : Reading Float Sample) : Formula → Except Fault Bool
  | constant value => .ok value.isTrue
  | compare relation first second => do
      let firstValue ← first.eval reading
      let secondValue ← second.eval reading
      relation.test firstValue secondValue
  | every parts => evalEvery reading parts
  | Formula.some parts => evalSome reading parts
  | Formula.not part => do pure !(← part.eval reading)
  | refuse category text => .error (.raised category text)

/-- Whether all of some formulas hold. -/
def evalEvery (reading : Reading Float Sample) :
    List Formula → Except Fault Bool
  | [] => .ok true
  | part :: rest => do
      if ← part.eval reading then evalEvery reading rest else pure false

/-- Whether one of some formulas holds. -/
def evalSome (reading : Reading Float Sample) : List Formula → Except Fault Bool
  | [] => .ok false
  | part :: rest => do
      if ← part.eval reading then pure true else evalSome reading rest

end

/-- The rule with a formula as its condition. -/
def toRule {Source : Type} (formula : Formula) (name : String)
    (action : Action) : Rule Float Sample Source where
  name := name
  action := action
  condition reading := Chance.lift (formula.eval reading)

end Formula

end SoundGrid
