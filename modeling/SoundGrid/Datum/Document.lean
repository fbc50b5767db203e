import SoundGrid.Datum
import SoundGrid.Number.Notation

/-!
# Documents

Reading and writing data as JSON text.  The reader takes the JSON grammar and
three names besides, `NaN`, `Infinity` and `-Infinity`.  A number without a
fraction and without an exponent is an integer of any size, up to a limit on
its digits.  Escapes by number may name halves of surrogate pairs; two halves
that belong together are one character.  When a record names a field twice the
last value counts.
-/

namespace SoundGrid.Document

/-- Why a text is not read as a document. -/
inductive Defect where
  | malformed
  | tooDeep
  | integerTooLong (digits : Nat)
deriving DecidableEq

/-- What a reader returns: a value and the text behind it. -/
abbrev Result (α : Type) := Except Defect (α × List Char)

/-- Containers may be nested this deep. -/
def deepest : Nat := 990

/-- The number of digits up to which integers are read. -/
def longestInteger : Nat := 4300

/-- Whether a character may stand between the parts of a document. -/
def isSpace (character : Char) : Bool :=
  character == ' ' || character == '\t' || character ==
    '\n' || character == '\r'

/-- The text behind the spaces at its start. -/
def skipSpaces (text : List Char) : List Char :=
  text.dropWhile isSpace

/-- The value of a hexadecimal digit. -/
def hexValue? (character : Char) : Option Nat :=
  if '0' ≤ character ∧ character ≤ '9' then some (character.toNat - '0'.toNat)
  else if 'a' ≤ character ∧
    character ≤ 'f' then some (character.toNat - 'a'.toNat + 10)
  else if 'A' ≤ character ∧
    character ≤ 'F' then some (character.toNat - 'A'.toNat + 10)
  else none

/-- The number that four hexadecimal digits denote. -/
def hexUnit? (a b c d : Char) : Option Nat := do
  let a ← hexValue? a
  let b ← hexValue? b
  let c ← hexValue? c
  let d ← hexValue? d
  pure (4096 * a + 256 * b + 16 * c + d)

/-- The character that a one-letter escape stands for. -/
def shortEscape? : Char → Option Char
  | '"' => some '"'
  | '\\' => some '\\'
  | '/' => some '/'
  | 'b' => some '\x08'
  | 'f' => some '\x0c'
  | 'n' => some '\n'
  | 'r' => some '\r'
  | 't' => some '\t'
  | _ => none

/--
The code point for two units, if they are the halves of a surrogate pair in
order.
-/
def pair? (high low : Nat) : Option CodePoint :=
  if 0xd800 ≤ high ∧ high < 0xdc00 ∧ 0xdc00 ≤ low ∧ low < 0xe000 then
    some (.ofNumber (0x10000 + (high - 0xd800) * 0x400 + (low - 0xdc00)))
  else
    none

/--
A text up to its closing quote; `done` holds what was read, last code point
first.
-/
def readText (done : List CodePoint) : List Char → Result Text
  | [] => .error .malformed
  | '"' :: rest => .ok (⟨done.reverse⟩, rest)
  | '\\' :: 'u' :: a :: b :: c :: d ::
      '\\' :: 'u' :: e :: f :: g :: h :: rest =>
      match hexUnit? a b c d with
      | none => .error .malformed
      | some unit =>
          match (hexUnit? e f g h).bind (pair? unit) with
          | some point => readText (point :: done) rest
          | none =>
              readText (.ofNumber unit :: done)
                ('\\' :: 'u' :: e :: f :: g :: h :: rest)
  | '\\' :: 'u' :: a :: b :: c :: d :: rest =>
      match hexUnit? a b c d with
      | none => .error .malformed
      | some unit => readText (.ofNumber unit :: done) rest
  | '\\' :: letter :: rest =>
      match shortEscape? letter with
      | none => .error .malformed
      | some character => readText (.character character :: done) rest
  | character :: rest =>
      if character.toNat < 0x20 || character == '\\' then .error .malformed
      else readText (.character character :: done) rest

/-- The number that a list of digits denotes. -/
def digitsValue (digits : List Char) : Nat :=
  digits.foldl (fun value digit => 10 * value + (digit.toNat - '0'.toNat)) 0

/-- The digits at the start of a text, and the rest. -/
def takeDigits (text : List Char) : List Char × List Char :=
  (text.takeWhile Char.isDigit, text.dropWhile Char.isDigit)

/-- A point with digits behind it; without them there is no fraction. -/
def takeFraction : List Char → Option (List Char) × List Char
  | '.' :: rest =>
      let (digits, after) := takeDigits rest
      if digits.isEmpty then (none, '.' :: rest) else (some digits, after)
  | text => (none, text)

/--
An exponent mark with a sign and digits behind it; without digits there is no
exponent.
-/
def takeExponent (text : List Char) : Option Int × List Char :=
  match text with
  | mark :: rest =>
      if mark == 'e' || mark == 'E' then
        let (negative, tail) :=
          match rest with
          | '-' :: tail => (true, tail)
          | '+' :: tail => (false, tail)
          | tail => (false, tail)
        let (digits, after) := takeDigits tail
        if digits.isEmpty then
          (none, text)
        else
          let value : Int := digitsValue digits
          (some (if negative then -value else value), after)
      else
        (none, text)
  | [] => (none, [])

/--
The digits before the point: a zero alone, or digits that start with another
one.
-/
def takeWhole : List Char → List Char × List Char
  | '0' :: rest => (['0'], rest)
  | text => takeDigits text

/-- A number whose sign has been read. -/
def readNumber (negative : Bool) (text : List Char) : Result Datum :=
  let (whole, afterWhole) := takeWhole text
  if whole.isEmpty then
    .error .malformed
  else
    let (fraction, afterFraction) := takeFraction afterWhole
    let (exponent, rest) := takeExponent afterFraction
    match fraction, exponent with
    | none, none =>
        if longestInteger < whole.length then
          .error (.integerTooLong whole.length)
        else
          let value : Int := digitsValue whole
          .ok (.int (if negative then -value else value), rest)
    | _, _ =>
        let digits := fraction.getD []
        let value := Number.Double.ofDecimal (digitsValue (whole ++ digits))
          (exponent.getD 0 - digits.length)
        .ok (.double (Number.Double.withSign negative value), rest)

/-- The names of values; every NaN of a document is the same one. -/
def names : List (String × Datum) :=
  [("null", .null), ("true", .bool true), ("false", .bool false),
    ("NaN", .undefined 0),
    ("Infinity", .double Number.Double.infinity),
    ("-Infinity", .double (-Number.Double.infinity))]

/-- A named value at the start of a text. -/
def takeName (text : List Char) :
    List (String × Datum) → Option (Datum × List Char)
  | [] => none
  | (name, value) :: rest =>
      if name.toList.isPrefixOf text then
        some (value, text.drop name.length)
      else
        takeName text rest

/-- A value without parts: a name or a number. -/
def readAtom (text : List Char) : Result Datum :=
  match takeName text names with
  | some found => .ok found
  | none =>
      match text with
      | '-' :: rest => readNumber true rest
      | _ => readNumber false text

/-- The fields in the order of their first mention, each with its last value. -/
def settle (done : List (Text × Datum)) : List (Text × Datum) :=
  done.reverse.foldl (fun fields (name, value) =>
    Datum.insert name value fields) []

mutual

/--
A value at the start of a text. The fuel bounds the steps; two for each
character are enough. `depth` is the number of containers that may still be
opened.
-/
def readValue (depth : Nat) : Nat → List Char → Result Datum
  | 0, _ => .error .malformed
  | fuel + 1, text =>
      match text with
      | '"' :: rest => (readText [] rest).map fun (value, after) =>
          (.text value, after)
      | '[' :: rest =>
          match depth with
          | 0 => .error .tooDeep
          | deeper + 1 =>
              match skipSpaces rest with
              | ']' :: after => .ok (.list [], after)
              | items => readItems deeper fuel [] items
      | '{' :: rest =>
          match depth with
          | 0 => .error .tooDeep
          | deeper + 1 =>
              match skipSpaces rest with
              | '}' :: after => .ok (.record [], after)
              | fields => readFields deeper fuel [] fields
      | _ => readAtom text

/--
The items of a list up to its bracket; `done` holds what was read, last item
first.
-/
def readItems (depth : Nat) : Nat → List Datum → List Char → Result Datum
  | 0, _, _ => .error .malformed
  | fuel + 1, done, text =>
      match readValue depth fuel text with
      | .error defect => .error defect
      | .ok (item, after) =>
          match skipSpaces after with
          | ',' :: rest => readItems depth fuel (item :: done) (skipSpaces rest)
          | ']' :: rest => .ok (.list (item :: done).reverse, rest)
          | _ => .error .malformed

/--
The fields of a record up to its brace; `done` holds what was read, last field
first.
-/
def readFields (depth : Nat) :
    Nat → List (Text × Datum) → List Char → Result Datum
  | 0, _, _ => .error .malformed
  | fuel + 1, done, text =>
      match text with
      | '"' :: rest =>
          match readText [] rest with
          | .error defect => .error defect
          | .ok (name, afterName) =>
              match skipSpaces afterName with
              | ':' :: afterColon =>
                  match readValue depth fuel (skipSpaces afterColon) with
                  | .error defect => .error defect
                  | .ok (value, after) =>
                      match skipSpaces after with
                      | ',' :: more =>
                          readFields depth fuel ((name, value) :: done)
                            (skipSpaces more)
                      | '}' :: more =>
                          .ok (.record (settle ((name, value) :: done)), more)
                      | _ => .error .malformed
              | _ => .error .malformed
      | _ => .error .malformed

end

/-- Reads a whole text. -/
def read (text : String) : Except Defect Datum :=
  let characters := skipSpaces text.toList
  match readValue deepest (2 * characters.length + 2) characters with
  | .error defect => .error defect
  | .ok (value, after) =>
      if (skipSpaces after).isEmpty then .ok value else .error .malformed

/-! ## Writing -/

/-- Four hexadecimal digits. -/
def unitText (unit : Nat) : String :=
  let digits := Nat.toDigits 16 unit
  "\\u" ++ String.ofList (List.replicate (4 - digits.length) '0' ++ digits)

/--
One character of a text; what is not ASCII is written by its UTF-16 units.
-/
def charText (character : Char) : String :=
  match character with
  | '"' => "\\\""
  | '\\' => "\\\\"
  | '\n' => "\\n"
  | '\r' => "\\r"
  | '\t' => "\\t"
  | '\x08' => "\\b"
  | '\x0c' => "\\f"
  | _ =>
      let code := character.toNat
      if 0x20 ≤ code ∧ code < 0x7f then
        character.toString
      else if code < 0x10000 then
        unitText code
      else
        unitText (0xd800 + (code - 0x10000) / 0x400) ++
          unitText (0xdc00 + (code - 0x10000) % 0x400)

/-- One code point of a text. -/
def pointText : CodePoint → String
  | .character value => charText value
  | .half position => unitText (CodePoint.half position).number

/-- A text in double quotes. -/
def textText (text : Text) : String :=
  "\"" ++ text.points.foldl (fun done point =>
    done ++ pointText point) "" ++ "\""

/-- How the parts of a document are set apart. -/
inductive Spacing where
  /-- All on one line. -/
  | compact
  /--
  Every part on a line of its own, indented by two spaces for each container
  around it.
  -/
  | indented (depth : Nat)

namespace Spacing

/-- What stands before a part of a container. -/
def beforePart : Spacing → String
  | compact => ""
  | indented depth => "\n" ++ "".pushn ' ' (2 * depth + 2)

/-- What stands between two parts. -/
def separator : Spacing → String
  | compact => ", "
  | indented _ => ","

/-- What stands after the last part of a container. -/
def afterParts : Spacing → String
  | compact => ""
  | indented depth => "\n" ++ "".pushn ' ' (2 * depth)

/-- The spacing inside a container. -/
def inside : Spacing → Spacing
  | compact => compact
  | indented depth => indented (depth + 1)

end Spacing

mutual

/-- A datum as JSON. -/
def write (spacing : Spacing) : Datum → String
  | .null => "null"
  | .bool true => "true"
  | .bool false => "false"
  | .int value => toString value
  | .double value => Number.Layout.document.write value
  | .undefined _ => Number.Layout.document.write Number.Double.undefined
  | .text value => textText value
  | .list [] => "[]"
  | .list items =>
      "[" ++ writeItems spacing "" items ++ spacing.afterParts ++ "]"
  | .record [] => "\x7b\x7d"
  | .record fields =>
      "\x7b" ++ writeFields spacing "" fields ++ spacing.afterParts ++ "\x7d"

/-- The items of a list. -/
def writeItems (spacing : Spacing) (separator : String) : List Datum → String
  | [] => ""
  | item :: rest =>
      separator ++ spacing.beforePart ++ write spacing.inside item ++
        writeItems spacing spacing.separator rest

/-- The fields of a record. -/
def writeFields (spacing : Spacing) (separator : String) :
    List (Text × Datum) → String
  | [] => ""
  | (key, value) :: rest =>
      separator ++ spacing.beforePart ++ textText key ++ ": " ++
        write spacing.inside value ++ writeFields spacing spacing.separator rest

end

end SoundGrid.Document
