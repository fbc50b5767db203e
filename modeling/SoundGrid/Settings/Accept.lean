import SoundGrid.Settings
import SoundGrid.Number.Arithmetic

/-!
# Accepting values for parameters

A value is accepted when it converts to a finite double in the range of its
parameter.  Texts that spell a number and truth values convert.  The ripple
speed has to be whole and is kept as a count.  A change of one parameter is
refused when the flip window of the rules would be empty afterwards.
-/

namespace SoundGrid

/-- The double that a datum converts to. -/
def Datum.toDouble : Datum → Except Fault Float
  | .text given =>
      match given.string?.bind Number.Literal.double? with
      | some number => .ok number
      | none => .error (.misuse .malformedDouble)
  | given =>
      match given.number? with
      | some number => number.toDouble
      | none => .error (.misuse .unconvertible)

namespace Parameter

/-- A finite double for a named parameter. -/
def finite (name : String) (given : Datum) : Except Fault Float :=
  match given.toDouble with
  | .error (.misuse .tooLarge) => .error (.misuse .tooLarge)
  | .error _ => .error (.rejected (.notANumber name given))
  | .ok number =>
      if number.isFinite then .ok number
      else .error (.rejected (.notFinite name given))

/-- A double between 0 and 1, both included. -/
def unit (name : String) (given : Datum) : Except Fault Float := do
  let number ← finite name given
  if 0.0 ≤ number ∧ number ≤ 1.0 then
    pure number
  else
    throw (.rejected (.outsideUnit name given))

/-- A double that is not negative. -/
def nonNegative (name : String) (given : Datum) : Except Fault Float := do
  let number ← finite name given
  if number < 0.0 then
    throw (.rejected (.negative name given))
  else
    pure number

/-- A part of the way: above 0 and at most 1. -/
def part (name : String) (given : Datum) : Except Fault Float := do
  let number ← finite name given
  if 0.0 < number ∧ number ≤ 1.0 then
    pure number
  else
    throw (.rejected (.smoothingRange number))

/-- A whole number that is not negative. -/
def count (name : String) (given : Datum) : Except Fault Nat := do
  let number ← nonNegative name given
  match Number.Double.scaled? number with
  | some exact =>
      if exact.isWhole then pure exact.truncate.toNat
      else throw (.rejected (.fractionalRipple given))
  | none => throw (.rejected (.fractionalRipple given))

/-- The value of a parameter that a datum stands for. -/
def accept :
    (parameter : Parameter) → Datum → Except Fault (parameter.Value Float)
  | directThreshold, given => unit directThreshold.name given
  | opacityGain, given => nonNegative opacityGain.name given
  | smoothing, given => part smoothing.name given
  | smoothedThreshold, given => unit smoothedThreshold.name given
  | probabilityScale, given => nonNegative probabilityScale.name given
  | entropyThreshold, given => unit entropyThreshold.name given
  | loudThreshold, given => unit loudThreshold.name given
  | quietThreshold, given => unit quietThreshold.name given
  | flipMin, given => unit flipMin.name given
  | flipMax, given => unit flipMax.name given
  | flipChance, given => unit flipChance.name given
  | rippleSpeed, given => count rippleSpeed.name given
  | decayFactor, given => unit decayFactor.name given
  | decayFloor, given => nonNegative decayFloor.name given
  | activeThreshold, given => unit activeThreshold.name given
  | inactiveThreshold, given => unit inactiveThreshold.name given
  | neighbourLimit, given => nonNegative neighbourLimit.name given

/-- The value of a parameter as a number. -/
def toNumber : (parameter : Parameter) → parameter.Value Float → Number
  | rippleSpeed, value => .int (value : Nat)
  | directThreshold, value => .double value
  | opacityGain, value => .double value
  | smoothing, value => .double value
  | smoothedThreshold, value => .double value
  | probabilityScale, value => .double value
  | entropyThreshold, value => .double value
  | loudThreshold, value => .double value
  | quietThreshold, value => .double value
  | flipMin, value => .double value
  | flipMax, value => .double value
  | flipChance, value => .double value
  | decayFactor, value => .double value
  | decayFloor, value => .double value
  | activeThreshold, value => .double value
  | inactiveThreshold, value => .double value
  | neighbourLimit, value => .double value

end Parameter

namespace Settings

/-- The settings that a grid starts with. -/
def standard : Settings Float where
  direct := ⟨0.1⟩
  opacity := ⟨8.0⟩
  smoothed := ⟨0.125, 0.1⟩
  probabilistic := ⟨0.5⟩
  entropy := ⟨0.1⟩
  rules := ⟨0.7, 0.01, 0.4, 0.6, 0.9, 1, 0.9, 0.05⟩
  neighborhood := ⟨0.01, 0.01, 2.5⟩

/-- Whether the flip window of the rules is not empty. -/
def windowOpen (settings : Settings Float) : Bool :=
  !(settings.rules.flipMax < settings.rules.flipMin)

/-- The settings, refused when the flip window is empty. -/
def checkWindow (settings : Settings Float) : Except Fault (Settings Float) :=
  if settings.windowOpen then .ok settings
  else .error (.rejected .flipWindow)

/-- The settings with a new value for one parameter. -/
def assign (settings : Settings Float) (parameter : Parameter) (given : Datum) :
    Except Fault (Settings Float) := do
  let value ← parameter.accept given
  (settings.put parameter value).checkWindow

/-- The level whose parameter set has a key. -/
def levelOf (key : Datum) : Except Fault Level :=
  match key with
  | .text given =>
      match given.string?.bind Level.ofKey? with
      | some level => .ok level
      | none => .error (.rejected (.unknownSet key))
  | _ => .error (.rejected (.unknownSet key))

/-- The parameter of a level with a name. -/
def parameterOf (level : Level) (name : Datum) : Except Fault Parameter :=
  let available := (level.parameters.map Parameter.name).mergeSort (· ≤ ·)
  let unknown := Fault.rejected (.unknownParameter name level.key available)
  match name with
  | .text given =>
      match given.string?.bind level.parameter? with
      | some parameter => .ok parameter
      | none => .error unknown
  | _ => if name.isAtomic then .error unknown
    else .error (.misuse (.unhashable name))

/-- Reads a parameter by the key of its set and its name. -/
def read (settings : Settings Float)
    (key name : Datum) : Except Fault Number := do
  let level ← levelOf key
  let parameter ← parameterOf level name
  pure (parameter.toNumber (settings.get parameter))

/-- Replaces a parameter by the key of its set and its name. -/
def write (settings : Settings Float) (key name given : Datum) :
    Except Fault (Settings Float) := do
  let level ← levelOf key
  let parameter ← parameterOf level name
  settings.assign parameter given

end Settings

end SoundGrid
