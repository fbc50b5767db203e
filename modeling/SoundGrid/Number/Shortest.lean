import SoundGrid.Number

/-!
# Shortest decimals

The fewest significant digits from which a positive double can be read back,
and of the candidates with that many digits the one nearest to the double.

A double stands for the interval of reals that round to it.  For one digit,
two digits, and so on, the two neighbours of the exact value on the decimal
grid with that many digits are tried; the first grid with a neighbour in the
interval is taken.  Seventeen digits always suffice for binary64.  All tests
are exact comparisons of natural numbers.
-/

namespace SoundGrid.Number

/-- The number `significand * 10 ^ exponent`. -/
structure Decimal where
  significand : Nat
  exponent : Int
deriving DecidableEq

namespace Shortest

/-- The digits that always suffice to read a double back. -/
def enoughDigits : Nat := 17

/--
The reals between `low` and `high` over a common denominator, around an exact
`value`; the ends belong to the interval when `closed` holds.
-/
structure Interval where
  low : Nat
  value : Nat
  high : Nat
  denominator : Nat
  closed : Bool

namespace Interval

/-- The interval of reals that round to `mantissa * 2 ^ exponent`. -/
def ofDouble (mantissa : Nat) (exponent : Int) : Interval :=
  let atPower := mantissa == 4503599627370496 && (-1074 : Int) < exponent
  let scale : Int := exponent - 2
  let factor := Nat.pow 2 scale.toNat
  { low := (4 * mantissa - (if atPower then 1 else 2)) * factor
    value := 4 * mantissa * factor
    high := (4 * mantissa + 2) * factor
    denominator := Nat.pow 2 (-scale).toNat
    closed := mantissa % 2 == 0 }

/-- Whether the integer `candidate` lies in the interval. -/
def holds (interval : Interval) (candidate : Nat) : Bool :=
  let scaled := candidate * interval.denominator
  if interval.closed then
    interval.low ≤ scaled && scaled ≤ interval.high
  else
    interval.low < scaled && scaled < interval.high

/-- The interval in units of `10 ^ exponent`. -/
def inUnits (interval : Interval) (exponent : Int) : Interval :=
  let shrink := Nat.pow 10 exponent.toNat
  let grow := Nat.pow 10 (-exponent).toNat
  { interval with
    low := interval.low * grow
    value := interval.value * grow
    high := interval.high * grow
    denominator := interval.denominator * shrink }

/--
The neighbour of the value among the integers that lies in the interval: the
nearer one when both do, and the even one when they are equally near.
-/
def neighbour? (interval : Interval) : Option Nat :=
  let below := interval.value / interval.denominator
  let rest := 2 * (interval.value % interval.denominator)
  match interval.holds below, interval.holds (below + 1) with
  | true, true =>
      if rest < interval.denominator then some below
      else if interval.denominator < rest then some (below + 1)
      else some (below + below % 2)
  | true, false => some below
  | false, true => some (below + 1)
  | false, false => none

/--
The decimal exponent of the value: the greatest power of ten that is not
above it.  The estimate from the binary digits is at most one too small.
-/
def magnitude (interval : Interval) : Int :=
  let bits : Int :=
    (interval.value.log2 : Int) - interval.denominator.log2 - 1
  let estimate : Int := bits * 30103 / 100000
  let reaches (power : Int) : Bool :=
    interval.denominator * Nat.pow 10 power.toNat ≤
      interval.value * Nat.pow 10 (-power).toNat
  if reaches (estimate + 2) then estimate + 2
  else if reaches (estimate + 1) then estimate + 1
  else if reaches estimate then estimate
  else estimate - 1

/-- The first grid with a neighbour in the interval, from `digits` digits on. -/
def search (interval : Interval) (magnitude : Int) : Nat → Nat → Decimal
  | 0, digits =>
      let exponent := magnitude - digits
      let units := interval.inUnits exponent
      ⟨units.value / units.denominator, exponent⟩
  | fuel + 1, digits =>
      let exponent := magnitude - digits
      match (interval.inUnits exponent).neighbour? with
      | some significand => ⟨significand, exponent⟩
      | none => search interval magnitude fuel (digits + 1)

/-- The decimal for the interval. -/
def decimal (interval : Interval) : Decimal :=
  interval.search interval.magnitude enoughDigits 0

end Interval

/-- The shortest decimal of `mantissa * 2 ^ exponent`, a positive double. -/
def ofScaled (mantissa : Nat) (exponent : Int) : Decimal :=
  (Interval.ofDouble mantissa exponent).decimal

end Shortest

end SoundGrid.Number
