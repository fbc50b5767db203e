import SoundGrid.Number.Scaled

/-!
# Numbers

A number is an integer of any size or a double, and it stays the one that it
was given as.  Numbers are compared by value across the two kinds, and no
integer is rounded for that.

For this there are exact readings of binary64 numbers and correctly rounded
conversions into them.  Conversions from integers and from quotients of integers
round to the nearest double, ties to even, and say so when the result would not
be finite.  Between binary64 and binary32 widening is exact; narrowing rounds to
the nearest single, ties to even, and overflows to an infinity.
-/

namespace SoundGrid

/-- A number as it was given: an integer of any size or a double. -/
inductive Number where
  | int (value : Int)
  | double (value : Float)
deriving DecidableEq

namespace Number

/-! ## Double precision -/

namespace Double

open Float.Model (UnpackedFloat)

/-- The exact value of a finite double. -/
def scaled? (number : Float) : Option Scaled :=
  match number.toModel.unpack with
  | .finite .positive mantissa exponent _ => some ⟨mantissa, exponent⟩
  | .finite .negative mantissa exponent _ => some ⟨-mantissa, exponent⟩
  | .zero _ => some ⟨0, 0⟩
  | .infinity _ => none
  | .notANumber => none

/-- Whether the sign bit is set. -/
def isNegative (number : Float) : Bool :=
  match number.toModel.unpack with
  | .finite .negative _ _ _ => true
  | .zero .negative => true
  | .infinity .negative => true
  | _ => false

/-- The integer part of a finite double. -/
def truncate? (number : Float) : Option Int :=
  (scaled? number).map Scaled.truncate

/-- The least integer not below a finite double. -/
def ceiling? (number : Float) : Option Int :=
  (scaled? number).map Scaled.ceiling

/-- Whether a double is finite and has no fraction. -/
def isWhole (number : Float) : Bool :=
  (scaled? number).any Scaled.isWhole

/-- The exact value of a double, zero for what is not finite. -/
def toRat (number : Float) : Rat :=
  ((scaled? number).map Scaled.toRat).getD 0

/--
The exact order of a double and an integer of any size; `none` for a NaN.
The integer is not rounded first.
-/
def compareInt (number : Float) (integer : Int) : Option Ordering :=
  match scaled? number with
  | some exact => some (exact.compareInt integer)
  | none =>
      if number.isNaN then none
      else if isNegative number then some .lt
      else some .gt

/-- Beyond this many binary digits an integer is above every finite double. -/
def integerBits : Nat := 1024

/-- The nearest double to an integer, infinite beyond the range. -/
def ofInt (integer : Int) : Float :=
  .ofModel (.ofInt integer)

/-- The nearest double to an integer; `none` when that would be infinite. -/
def ofInt? (integer : Int) : Option Float :=
  if integer.natAbs.log2 < integerBits then
    let nearest := ofInt integer
    if nearest.isFinite then some nearest else none
  else
    none

/-- The nearest double to a natural number, infinite beyond the range. -/
def ofNat (natural : Nat) : Float :=
  .ofModel (.ofNat natural)

/-- The sign of a quotient of integers. -/
def quotientSign (numerator denominator : Int) : UnpackedFloat.Sign :=
  if (numerator < 0) = (denominator < 0) then .positive else .negative

/--
The nearest double to the quotient of two integers, which is rounded once;
`none` when that would be infinite.  The divisor is not zero.
-/
def ofQuotient? (numerator denominator : Int) : Option Float :=
  if numerator = 0 then
    some (.ofModel (.pack (.zero .positive)))
  else
    let sign := quotientSign numerator denominator
    let (mantissa, exponent, accuracy) :=
      UnpackedFloat.divCore .binary64 numerator.natAbs 0 denominator.natAbs 0
    let bits : Int := numerator.natAbs.log2 - denominator.natAbs.log2
    if bits < -1200 then
      some (.ofModel (.pack (.zero sign)))
    else if 1200 < bits then
      none
    else
      let nearest := Float.ofModel (.pack
        (.roundWithAccuracy .binary64 sign mantissa exponent accuracy))
      if nearest.isFinite then some nearest else none

/-- The positive infinity. -/
def infinity : Float := .ofModel (.pack (.infinity .positive))

/-- The NaN. -/
def undefined : Float := .ofModel (.pack .notANumber)

/--
Decimal exponents beyond this size, counted from the first digit, leave the
range of the finite doubles on either side.
-/
def decimalRange : Int := 400

/--
The nearest double to `significand * 10 ^ exponent`, infinite beyond the
range.  The exponent is cut off first where the result is already decided, so
that a long exponent costs nothing.
-/
def ofDecimal (significand : Nat) (exponent : Int) : Float :=
  if significand = 0 then
    .ofModel (.pack (.zero .positive))
  else
    let digits : Int := significand.log2 * 30103 / 100000
    if decimalRange < digits + exponent then
      infinity
    else if digits + exponent < -decimalRange then
      .ofModel (.pack (.zero .positive))
    else
      .ofModel (.ofScientific significand exponent)

/-- The double with the sign turned when asked. -/
def withSign (negative : Bool) (number : Float) : Float :=
  if negative then -number else number

end Double

/-! ## Single precision -/

namespace Single

open Float.Model (UnpackedFloat)

/-- The nearest single to a double. -/
def ofDouble (number : Float) : Float32 :=
  match number.toModel.unpack with
  | .finite sign mantissa exponent _ =>
      .ofModel (.pack (.round .binary32 sign mantissa exponent))
  | other => .ofModel (.pack other)

/-- The double with the same value as a single. -/
def toDouble (number : Float32) : Float :=
  match number.toModel.unpack with
  | .finite sign mantissa exponent _ =>
      .ofModel (.pack (.round .binary64 sign mantissa exponent))
  | other => .ofModel (.pack other)

end Single

/-! ## Comparisons -/

/-- The order of two numbers by value; `none` when one of them is a NaN. -/
def compare? : Number → Number → Option Ordering
  | .int left, .int right => some (compare left right)
  | .int left, .double right => (Double.compareInt right left).map Ordering.swap
  | .double left, .int right => Double.compareInt left right
  | .double left, .double right => left.toModel.compare right.toModel

/-- Equality by value; a NaN equals nothing. -/
def same (left right : Number) : Bool :=
  compare? left right == some .eq

/-- Whether the number differs from zero; a NaN does. -/
def isTrue : Number → Bool
  | .int value => value != 0
  | .double value => value != 0.0

end Number

end SoundGrid
