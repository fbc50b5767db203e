/-!
# Integers scaled by a power of two

Every finite binary floating-point number is an integer times a power of two.
This module holds that reading and the questions that have an exact answer on
it: the integer part, the ceiling, whether the number is whole, and how it
compares with an integer of any size.  Nothing here rounds.
-/

namespace SoundGrid.Number

/-- The number `mantissa * 2 ^ exponent`. -/
structure Scaled where
  mantissa : Int
  exponent : Int
deriving DecidableEq

namespace Scaled

/--
The power of two that multiplies the mantissa, when the exponent is not
negative.
-/
def factor (number : Scaled) : Nat :=
  Nat.pow 2 number.exponent.toNat

/--
The power of two that divides the mantissa, when the exponent is negative.
-/
def divisor (number : Scaled) : Nat :=
  Nat.pow 2 (-number.exponent).toNat

theorem divisor_pos (number : Scaled) : 0 < number.divisor :=
  Nat.two_pow_pos _

/-- One of the two powers is always 1, so the number is this quotient. -/
def numerator (number : Scaled) : Int :=
  number.mantissa * number.factor

/-- The integer part: the fraction is dropped, whatever the sign. -/
def truncate (number : Scaled) : Int :=
  number.numerator.tdiv number.divisor

/-- The least integer that is not below the number. -/
def ceiling (number : Scaled) : Int :=
  -((-number.numerator) / number.divisor)

/-- Whether the number has no fraction. -/
def isWhole (number : Scaled) : Bool :=
  number.numerator % number.divisor == 0

/-- The order of the number and an integer. -/
def compareInt (number : Scaled) (integer : Int) : Ordering :=
  compare number.numerator (integer * number.divisor)

/-- The number as a fraction in lowest terms. -/
def toRat (number : Scaled) : Rat :=
  mkRat number.numerator number.divisor

theorem truncate_of_isWhole {number : Scaled} (whole : number.isWhole = true) :
    number.truncate * number.divisor = number.numerator := by
  have divides : (number.divisor : Int) ∣ number.numerator := by
    apply Int.dvd_of_emod_eq_zero
    simpa [isWhole] using whole
  exact Int.tdiv_mul_cancel divides

end Scaled

end SoundGrid.Number
