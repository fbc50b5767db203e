import SoundGrid.Number
import SoundGrid.Text.Character

/-!
# Numbers in text

Readers for numbers that people type: blanks around the number are ignored,
the digits may be of any script, and an underscore may stand between two
digits.  `integer?` takes a sign and digits.  `double?` takes a sign and
either digits with an optional point and exponent, or a name of infinity or
NaN in any letter case.
-/

namespace SoundGrid.Number.Literal

open SoundGrid.Text

/-- A text with every decimal digit written in ASCII. -/
def plainDigits (text : List Char) : List Char :=
  text.map fun character =>
    match digitValue? character with
    | some value => Nat.digitChar value
    | none => character

/-- A leading sign: whether it is a minus, and what follows it. -/
def takeSign : List Char → Bool × List Char
  | '-' :: rest => (true, rest)
  | '+' :: rest => (false, rest)
  | rest => (false, rest)

/--
Removes the underscores from a text; refuses one that does not stand between
two digits.
-/
def dropUnderscores (previous : Char) : List Char → Option (List Char)
  | [] => if previous == '_' then none else some []
  | '_' :: rest =>
      if previous.isDigit then dropUnderscores '_' rest else none
  | character :: rest =>
      if previous == '_' && !character.isDigit then
        none
      else
        (dropUnderscores character rest).map (character :: ·)

/-- The number that a list of digits denotes. -/
def digitsValue (digits : List Char) : Nat :=
  digits.foldl (fun value digit => 10 * value + (digit.toNat - '0'.toNat)) 0

/-- The number of digits up to which integers are read. -/
def longestInteger : Nat := 4300

/-- What can be wrong with the text of an integer. -/
inductive IntegerError where
  | malformed
  | tooLong (digits : Nat)
deriving DecidableEq

/--
Whether a character belongs to the run of digits and underscores of an integer.
-/
def isInRun (character : Char) : Bool :=
  character.isDigit || character == '_'

/--
Reads a sign and digits.  A run of too many digits is refused as such, whatever
stands behind it.
-/
def integer (text : String) : Except IntegerError Int :=
  let (negative, rest) := takeSign (plainDigits (trim text.toList))
  match dropUnderscores '.' (rest.takeWhile isInRun) with
  | none => .error .malformed
  | some digits =>
      if longestInteger < digits.length then
        .error (.tooLong digits.length)
      else if digits.isEmpty || !rest.all isInRun then
        .error .malformed
      else
        let value : Int := digitsValue digits
        .ok (if negative then -value else value)

/-- An exponent: nothing, or a mark with a sign and digits. -/
def exponent? : List Char → Option Int
  | [] => some 0
  | mark :: rest =>
      if mark == 'e' || mark == 'E' then
        let (negative, digits) := takeSign rest
        if digits.isEmpty || !digits.all Char.isDigit then
          none
        else
          let value : Int := digitsValue digits
          some (if negative then -value else value)
      else
        none

/-- Digits with an optional point and exponent; at least one digit is needed. -/
def decimal? (text : List Char) : Option Float :=
  let whole := text.takeWhile Char.isDigit
  let afterWhole := text.dropWhile Char.isDigit
  let (fraction, rest) :=
    match afterWhole with
    | '.' :: tail => (tail.takeWhile Char.isDigit, tail.dropWhile Char.isDigit)
    | tail => ([], tail)
  if whole.isEmpty && fraction.isEmpty then
    none
  else
    (exponent? rest).map fun exponent =>
      Double.ofDecimal (digitsValue (whole ++ fraction))
        (exponent - fraction.length)

/-- The doubles that have a name. -/
def named? (text : List Char) : Option Float :=
  let name := String.ofList (text.map Char.toLower)
  if name == "inf" || name == "infinity" then some Double.infinity
  else if name == "nan" then some Double.undefined
  else none

/-- Reads a double. -/
def double? (text : String) : Option Float :=
  let (negative, rest) := takeSign (plainDigits (trim text.toList))
  let magnitude :=
    match named? rest with
    | some number => some number
    | none => (dropUnderscores '.' rest).bind decimal?
  magnitude.map (Double.withSign negative)

end SoundGrid.Number.Literal
