import SoundGrid.Text
import SoundGrid.Text.Printable

/-!
# Quoted text

A text in quotes, as messages show it.  Single quotes are used unless the
text holds a single quote and no double quote.  The backslash, the quote in
use and three control characters have an escape of their own; what is not
printable is written by its number.
-/

namespace SoundGrid.Text

/--
The lower-case hexadecimal digits of a number, filled up with zeros to a width.
-/
def hexadecimal (width number : Nat) : String :=
  let digits := String.ofList (Nat.toDigits 16 number)
  "".pushn '0' (width - digits.length) ++ digits

/-- The quote that surrounds a text. -/
def quoteFor (text : Text) : Char :=
  if text.points.contains (.character '\'') &&
    !text.points.contains (.character '"') then '"'
  else '\''

/-- A code point by its number. -/
def escape (number : Nat) : String :=
  if number < 0x100 then "\\x" ++ hexadecimal 2 number
  else if number < 0x10000 then "\\u" ++ hexadecimal 4 number
  else "\\U" ++ hexadecimal 8 number

/-- One character of a text between the given quotes. -/
def quoteCharacter (quote character : Char) : String :=
  if character == quote || character == '\\' then
    String.ofList ['\\', character]
  else if character == '\n' then "\\n"
  else if character == '\r' then "\\r"
  else if character == '\t' then "\\t"
  else if isPrintable character then character.toString
  else escape character.toNat

/-- One code point of a text between the given quotes. -/
def quotePoint (quote : Char) : CodePoint → String
  | .character value => quoteCharacter quote value
  | .half position => escape (CodePoint.half position).number

/-- A text in quotes. -/
def quoted (text : Text) : String :=
  let quote := quoteFor text
  let body :=
    text.points.foldl (fun shown point => shown ++ quotePoint quote point) ""
  quote.toString ++ body ++ quote.toString

end SoundGrid.Text
