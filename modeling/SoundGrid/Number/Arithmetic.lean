import SoundGrid.Fault

/-!
# Arithmetic of numbers

Sums, differences and products of integers are exact.  As soon as a double
takes part, an integer is rounded to the nearest double first and refused when
there is none.  A quotient of integers is a double, rounded once.
-/

namespace SoundGrid.Number

/-- The nearest double to an integer. -/
def doubleOfInt (value : Int) : Except Fault Float :=
  match Double.ofInt? value with
  | some nearest => .ok nearest
  | none => .error (.misuse .tooLarge)

/-- The double for a number. -/
def toDouble : Number → Except Fault Float
  | .int value => doubleOfInt value
  | .double value => .ok value

/-- The whole part of a number. -/
def whole : Number → Except Fault Int
  | .int value => .ok value
  | .double value =>
      match Double.truncate? value with
      | some whole => .ok whole
      | none =>
          .error
            (.misuse (if value.isNaN then .undefinedInteger else .tooLarge))

/-- Two numbers of one kind. -/
inductive Pair where
  | integers (first second : Int)
  | doubles (first second : Float)

/-- Two numbers, both as doubles unless both are integers. -/
def align : Number → Number → Except Fault Pair
  | .int first, .int second => .ok (.integers first second)
  | first, second => do
      let first ← first.toDouble
      let second ← second.toDouble
      pure (.doubles first second)

/-- Does an operation on integers or on doubles. -/
def apply (integers : Int → Int → Int) (doubles : Float → Float → Float)
    (first second : Number) : Except Fault Number := do
  match ← align first second with
  | .integers first second => pure (.int (integers first second))
  | .doubles first second => pure (.double (doubles first second))

/-- The sum. -/
def add : Number → Number → Except Fault Number :=
  apply (· + ·) (· + ·)

/-- The difference. -/
def sub : Number → Number → Except Fault Number :=
  apply (· - ·) (· - ·)

/-- The product. -/
def mul : Number → Number → Except Fault Number :=
  apply (· * ·) (· * ·)

/-- The quotient. -/
def div (first second : Number) : Except Fault Float := do
  match ← align first second with
  | .integers first second =>
      if second = 0 then
        throw (.misuse .divisionByZero)
      else
        match Double.ofQuotient? first second with
        | some quotient => pure quotient
        | none => throw (.misuse .tooLarge)
  | .doubles first second =>
      if second == 0.0 then throw (.misuse .divisionByZero)
      else pure (first / second)

/-- Whether the first number is below the second. -/
def isBelow (first second : Number) : Bool :=
  first.compare? second == some .lt

/-- Whether the first number is at most the second. -/
def isAtMost (first second : Number) : Bool :=
  (first.compare? second).any (·.isLE)

end SoundGrid.Number
