import SoundGrid.Number.Shortest

/-!
# Written numbers

How a double is written.  The digits come from `Shortest`; a `Layout` decides
where the positional notation ends and how an exponent is spelled.  There is
also a notation with a fixed number of decimal places.
-/

namespace SoundGrid.Number

/-- The spelling of a double. -/
structure Layout where
  /-- Numbers from `10 ^ leastPositional` on are written positionally. -/
  leastPositional : Int
  /-- Numbers from `10 ^ leastScientific` on have an exponent. -/
  leastScientific : Int
  /-- An exponent has at least this many digits. -/
  exponentDigits : Nat
  infinite : String
  undefined : String

namespace Layout

/-- Messages are positional from 0.0001 up to 10 ^ 16. -/
def message : Layout := ⟨-4, 16, 2, "inf", "nan"⟩

/--
Documents have the same numbers and names of their own for what is not finite.
-/
def document : Layout :=
  { message with infinite := "Infinity", undefined := "NaN" }

/-- A significand without its closing zeros. -/
def significantDigits (significand : Nat) : List Char :=
  ((Nat.toDigits 10 significand).reverse.dropWhile (· == '0')).reverse

/-- Digits with the point after the first `point` of them. -/
def positional (digits : List Char) (point : Int) : String :=
  if point ≤ 0 then
    "0." ++ "".pushn '0' (-point).toNat ++ String.ofList digits
  else if digits.length ≤ point then
    String.ofList digits ++ "".pushn '0' (point.toNat - digits.length) ++ ".0"
  else
    String.ofList (digits.take point.toNat) ++ "." ++
      String.ofList (digits.drop point.toNat)

/-- An exponent with its sign and at least `width` digits. -/
def exponentText (width : Nat) (exponent : Int) : String :=
  let digits := toString exponent.natAbs
  let sign := if exponent < 0 then "-" else "+"
  sign ++ "".pushn '0' (width - digits.length) ++ digits

/-- Digits with the point after the first one, and an exponent. -/
def scientific (width : Nat) (digits : List Char) (exponent : Int) : String :=
  let fraction :=
    match digits.drop 1 with
    | [] => ""
    | rest => "." ++ String.ofList rest
  String.ofList (digits.take 1) ++ fraction ++ "e" ++
    exponentText width exponent

/-- The text of a positive decimal. -/
def decimal (layout : Layout) (number : Decimal) : String :=
  let all := Nat.toDigits 10 number.significand
  let digits := significantDigits number.significand
  let leading : Int := all.length + number.exponent - 1
  if layout.leastPositional ≤ leading ∧ leading < layout.leastScientific then
    positional digits (leading + 1)
  else
    scientific layout.exponentDigits digits leading

/-- The text of a double. -/
def write (layout : Layout) (number : Float) : String :=
  let sign := if Double.isNegative number then "-" else ""
  match Double.scaled? number with
  | none => if number.isNaN then layout.undefined else sign ++ layout.infinite
  | some exact =>
      if exact.mantissa = 0 then
        sign ++ "0.0"
      else
        sign ++ layout.decimal
          (Shortest.ofScaled exact.mantissa.natAbs exact.exponent)

end Layout

/--
The quotient of two naturals to the nearest integer, a tie going to the even
one.
-/
def roundedQuotient (numerator denominator : Nat) : Nat :=
  let below := numerator / denominator
  let rest := 2 * (numerator % denominator)
  if rest < denominator then below
  else if denominator < rest then below + 1
  else below + below % 2

/--
A double with a fixed number of decimal places, rounded from its exact value.
-/
def fixed (places : Nat) (number : Float) : String :=
  let sign := if Double.isNegative number then "-" else ""
  match Double.scaled? number with
  | none => if number.isNaN then "nan" else sign ++ "inf"
  | some exact =>
      let digits := Nat.toDigits 10
        (roundedQuotient (exact.numerator.natAbs * Nat.pow 10 places)
          exact.divisor)
      let filled := List.replicate (places + 1 - digits.length) '0' ++ digits
      let whole := filled.take (filled.length - places)
      let fraction := filled.drop (filled.length - places)
      let point := if places = 0 then "" else "."
      sign ++ String.ofList whole ++ point ++ String.ofList fraction

end SoundGrid.Number
