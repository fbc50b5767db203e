import SoundGrid.Fault
import SoundGrid.Random

/-!
# Arithmetic of samples

What the simulation does with samples and cell values: it adds, subtracts,
multiplies and compares them, and it converts a result to the form in which a
cell stores it.  Samples may come in several number formats, and in formats
without arithmetic, so every operation may refuse.

The class has two types: that of the real numbers in the settings, and that of
samples and cell values.  Running grids have doubles and `Sample`; statements
in exact arithmetic have rational samples and cell values.
-/

namespace SoundGrid

/--
Arithmetic on samples, with settings that are real numbers of another type.
-/
class Arithmetic (Real : outParam Type) (Value : Type) where
  /-- The value of a new cell. -/
  zero : Value
  /-- A number from the settings as an operand. -/
  setting : Real → Value
  /-- A random fraction as an operand. -/
  fraction : Fraction → Value
  /-- A count of neighbours as an operand. -/
  count : Int → Value
  add : Value → Value → Except Fault Value
  sub : Value → Value → Except Fault Value
  mul : Value → Value → Except Fault Value
  /-- Whether the first value is below the second. -/
  less : Value → Value → Except Fault Bool
  /-- The form in which a cell stores a value. -/
  store : Value → Except Fault Value

namespace Arithmetic

variable {Real Value : Type} [Arithmetic Real Value]

/-- Whether the first value is above the second. -/
def above (first second : Value) : Except Fault Bool :=
  less second first

/-- The point that lies a part of the way from one value to another. -/
def toward (current target part : Value) : Except Fault Value := do
  let distance ← sub target current
  let step ← mul distance part
  add current step

end Arithmetic

end SoundGrid
