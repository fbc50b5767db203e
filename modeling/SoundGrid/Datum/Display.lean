import SoundGrid.Datum
import SoundGrid.Number.Notation
import SoundGrid.Text.Quoted

/-!
# Data in messages

How messages show a datum: texts in quotes, doubles with the fewest digits
that read back, lists in brackets and records in braces.
-/

namespace SoundGrid

namespace Number

/-- A number as messages show it. -/
def display : Number → String
  | .int value => toString value
  | .double value => Layout.message.write value

end Number

namespace Datum

mutual

/-- A datum as messages show it. -/
def display : Datum → String
  | null => "None"
  | bool true => "True"
  | bool false => "False"
  | int value => toString value
  | double value => Number.Layout.message.write value
  | undefined _ => Number.Layout.message.write Number.Double.undefined
  | text value => Text.quoted value
  | list items => "[" ++ displayItems "" items ++ "]"
  | record fields => "\x7b" ++ displayFields "" fields ++ "\x7d"

/-- The items of a list, separated by commas. -/
def displayItems (separator : String) : List Datum → String
  | [] => ""
  | item :: rest => separator ++ display item ++ displayItems ", " rest

/-- The fields of a record, separated by commas. -/
def displayFields (separator : String) : List (Text × Datum) → String
  | [] => ""
  | (key, value) :: rest =>
      separator ++ Text.quoted key ++ ": " ++ display value ++
        displayFields ", " rest

end

/-- A list of data in brackets. -/
def displayList (items : List Datum) : String :=
  display (.list items)

/--
A datum in running text: a text appears without quotes, as far as it is a
string.
-/
def plain : Datum → String
  | text value => value.string?.getD value.quoted
  | other => other.display

end Datum

end SoundGrid
