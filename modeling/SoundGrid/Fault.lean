import SoundGrid.Datum.Display
import SoundGrid.Datum.Document
import SoundGrid.Text.Utf8

/-!
# Faults

Why an operation gave no result.  A `Rejection` is a refusal of this library,
with a wording of its own.  A `Misuse` is an operation asked of a value that
has no such operation.  A rule condition may also refuse with words that the
rule's author chose.  Every fault belongs to a `Category`, by which callers
tell bad values from the rest.
-/

namespace SoundGrid

/-- The kinds of fault that callers tell apart. -/
inductive Category where
  /-- A value of the right kind that is not acceptable. -/
  | value
  /-- A name that does not exist. -/
  | key
  /-- A position outside a sequence. -/
  | index
  /-- An operation that the kind of value does not have. -/
  | type
  /-- An operation that an array element does not have with such a value. -/
  | element
  /-- A part that the kind of value does not have. -/
  | member
  /-- A number beyond the range of doubles. -/
  | overflow
  /-- A division by zero. -/
  | division
  /-- A text that is not a document. -/
  | document
  /-- Bytes that are not UTF-8. -/
  | encoding
  /-- A document nested too deep. -/
  | depth
  /-- Something that is not a file where a file is needed. -/
  | folder
  /-- A file where a folder is needed. -/
  | occupied
  /-- A file on the way to a location. -/
  | way
  /-- A location that cannot be looked up. -/
  | system
  /-- A file that holds no sound of a known kind. -/
  | sound
  /-- A category that a rule's author named. -/
  | named (name : String)
deriving DecidableEq

namespace Category

/--
Whether the fault lies in a value, so that a better value would be accepted.
-/
def isValue : Category → Bool
  | value | document | encoding => true
  | _ => false

end Category

/-- A refusal of this library. -/
inductive Rejection where
  | notANumber (name : String) (given : Datum)
  | notFinite (name : String) (given : Datum)
  | outsideUnit (name : String) (given : Datum)
  | negative (name : String) (given : Datum)
  | smoothingRange (given : Float)
  | flipWindow
  | fractionalRipple (given : Datum)
  | unknownSet (key : Datum)
  | unknownParameter (name : Datum) (key : String) (available : List String)
  | unknownSets (keys : List Datum)
  | unknownFields (key : String) (names : List Datum)
  | notARecord
  | unknownConfigKeys (keys : List Text)
  | invalidParameters (reason : String)
  | connectivity (given : Datum)
  | unknownLevel (name : Text) (available : List String)
  | levelRange (given : Datum)
  | dimensions (rows columns : Datum)
  | cellOutside (row column : Datum) (rows columns : Int)
  | emptySignal
  | emptyWindow
  | signalIndex
  | frameRate
  | windowLength
  | cellSize
  | gap
  | optionNotPositive (option : String) (given : Int)
  | optionNegative (option : String) (given : Float)

namespace Rejection

/-- Names in brackets, in quotes. -/
def nameList (names : List String) : String :=
  Datum.displayList (names.map fun (name : String) => Datum.text name)

/-- The wording of a refusal. -/
def message : Rejection → String
  | notANumber name given => s!"{name} must be a number, got {given.display}"
  | notFinite name given => s!"{name} must be finite, got {given.display}"
  | outsideUnit name given => s!"{name} must be in [0, 1], got {given.display}"
  | negative name given => s!"{name} must be >= 0, got {given.display}"
  | smoothingRange given =>
      s!"smoothing must be in (0, 1], got {Number.Layout.message.write given}"
  | flipWindow => "flip_min must not exceed flip_max"
  | fractionalRipple given =>
      s!"ripple_speed must be a non-negative integer, got {given.display}"
  | unknownSet key => s!"Unknown parameter set: {key.display}"
  | unknownParameter name key available =>
      s!"Unknown parameter {name.display} for {key}. " ++
        s!"Available: {nameList available}"
  | unknownSets keys => s!"Unknown parameter sets: {Datum.displayList keys}"
  | unknownFields key names =>
      s!"Unknown parameters for {key}: {Datum.displayList names}"
  | notARecord => "Config must be a JSON object"
  | unknownConfigKeys keys =>
      s!"Unknown config keys: {Datum.displayList (keys.map Datum.text)}"
  | invalidParameters reason => s!"Invalid params: {reason}"
  | connectivity given => s!"connectivity must be 4 or 8, got {given.display}"
  | unknownLevel name available =>
      s!"Unknown level: {Text.quoted name}. Available: {nameList available}"
  | levelRange given => s!"Level must be in 0-6, got {given.display}"
  | dimensions rows columns =>
      s!"Grid dimensions must be >= 0, got {rows.plain}x{columns.plain}"
  | cellOutside row column rows columns =>
      s!"Cell ({row.plain}, {column.plain}) out of bounds for " ++
        s!"{rows}x{columns} grid"
  | emptySignal => "Cannot advance on an empty signal"
  | emptyWindow => "Cannot normalize an empty window"
  | signalIndex => "signal index out of range"
  | frameRate => "fps must be positive"
  | windowLength => "window must be positive"
  | cellSize => "cell_size must be positive"
  | gap => "gap must leave a visible cell"
  | optionNotPositive option given => s!"{option} must be positive, got {given}"
  | optionNegative option given =>
      s!"{option} must be >= 0, got {Number.Layout.message.write given}"

/-- The category of a refusal. -/
def category : Rejection → Category
  | unknownSet _ | unknownParameter .. => .key
  | cellOutside .. | signalIndex => .index
  | _ => .value

end Rejection

/-- An operation asked of a value that does not have it. -/
inductive Misuse where
  /-- The operands have no such operation, or no order. -/
  | operands
  /-- An array element has no such operation with a text. -/
  | elementOperands
  /-- A comparison that should have one answer has none, or several. -/
  | manyAnswers
  /-- The datum cannot be converted to a number. -/
  | unconvertible
  /-- The datum has no items. -/
  | notIterable (given : Datum)
  /-- The datum cannot be a member of a set. -/
  | unhashable (given : Datum)
  /-- The datum cannot name the fields of a parameter set. -/
  | notAMapping (set : String) (given : Datum)
  /-- The datum has no fields. -/
  | noFields
  /-- The part is fixed for the lifetime of its owner. -/
  | fixedMember
  /-- A field that does not exist was given. -/
  | unexpectedField
  /-- The text does not denote a double. -/
  | malformedDouble
  /-- The text does not denote an integer. -/
  | malformedInteger (text : String)
  /-- An integer has more digits than are read. -/
  | integerTooLong (digits : Nat)
  /-- The number has no finite double near it, or no integer part. -/
  | tooLarge
  /-- A NaN has no integer part. -/
  | undefinedInteger
  | divisionByZero
  | indexOutside
  /-- Not the name of an action. -/
  | unknownAction
  /-- The number of channels does not fit. -/
  | misfit
  /-- More places than can be counted. -/
  | tooManyPlaces
  /-- A slice with steps of length zero. -/
  | zeroStep
  /-- The value does not occur. -/
  | absent
  /-- There is no index below the bound. -/
  | emptyRange
  | malformedDocument
  | deepDocument
  | malformedBytes (defect : Text.Utf8.Defect)
  /-- The location has no name beside which another could stand. -/
  | nameless
  /-- The location holds something that cannot be read or written as a file. -/
  | unreadable
  /-- A file stands where a folder is needed. -/
  | occupied
  /-- A file stands on the way to a location. -/
  | fileOnTheWay
  /-- A name or a location is too long. -/
  | longName
  /-- A location holds a null character. -/
  | unwritable
  /-- The file holds no sound of a known kind. -/
  | unknownSound

namespace Misuse

/-- The word for the kind of a datum. -/
def kindName : Datum → String
  | .null => "NoneType"
  | .bool _ => "bool"
  | .int _ => "int"
  | .double _ | .undefined _ => "float"
  | .text _ => "str"
  | .list _ => "list"
  | .record _ => "dict"

/-- Where and why bytes cannot be decoded. -/
def bytesText (defect : Text.Utf8.Defect) : String :=
  let place :=
    if defect.length = 1 then
      s!"byte 0x{Text.hexadecimal 2 defect.first} in position {defect.position}"
    else
      s!"bytes in position {defect.position}-" ++
        s!"{defect.position + defect.length - 1}"
  let reason :=
    match defect.reason with
    | .start => "invalid start byte"
    | .continuation => "invalid continuation byte"
    | .ending => "unexpected end of data"
  s!"'utf-8' codec can't decode {place}: {reason}"

/--
Messages about the text of an integer show so much of it, quotes included.
-/
def shownLength : Nat := 200

/-- The beginning of a text in quotes. -/
def beginning (given : String) : String :=
  String.ofList ((Text.quoted given).toList.take shownLength)

/-- The wording of a misuse. -/
def text : Misuse → String
  | operands => "unsupported operand"
  | elementOperands => "unsupported operand of an array element"
  | manyAnswers => "the truth value of an array is ambiguous"
  | unconvertible => "not a number"
  | notIterable given => s!"'{kindName given}' object is not iterable"
  | unhashable given => s!"unhashable type: '{kindName given}'"
  | notAMapping set given =>
      s!"{set}() argument after ** must be a mapping, not {kindName given}"
  | noFields => "no such part"
  | fixedMember => "the part is fixed"
  | unexpectedField => "unexpected field"
  | malformedDouble => "could not convert string to float"
  | malformedInteger given =>
      s!"invalid literal for int() with base 10: {beginning given}"
  | integerTooLong digits =>
      s!"Exceeds the limit (4300 digits) for integer string conversion: " ++
        s!"value has {digits} digits; use sys.set_int_max_str_digits() to " ++
        "increase the limit"
  | tooLarge => "number too large"
  | undefinedInteger => "cannot convert float NaN to integer"
  | divisionByZero => "division by zero"
  | indexOutside => "index out of range"
  | unknownAction => "not a valid action"
  | misfit => "the channels do not fit"
  | tooManyPlaces => "too many places"
  | zeroStep => "slice step cannot be zero"
  | absent => "value not present"
  | emptyRange => "empty range"
  | malformedDocument => "malformed document"
  | deepDocument => "document nested too deep"
  | malformedBytes defect => bytesText defect
  | nameless => "the location has no name"
  | unreadable => "not a file"
  | occupied => "a file exists where a folder is needed"
  | fileOnTheWay => "a file stands on the way"
  | longName => "name too long"
  | unwritable => "embedded null character"
  | unknownSound => "not a sound of a known kind"

/-- The category of a misuse. -/
def category : Misuse → Category
  | operands | unconvertible | notIterable _ | unhashable _ | notAMapping .. =>
      .type
  | unexpectedField => .type
  | elementOperands => .element
  | noFields | fixedMember => .member
  | malformedDouble | malformedInteger _ | integerTooLong _
    | undefinedInteger => .value
  | unknownAction | zeroStep | absent | emptyRange => .value
  | tooLarge => .overflow
  | divisionByZero => .division
  | indexOutside => .index
  | malformedDocument => .document
  | deepDocument => .depth
  | malformedBytes _ => .encoding
  | nameless | unwritable | manyAnswers | misfit | tooManyPlaces => .value
  | unreadable => .folder
  | occupied => .occupied
  | fileOnTheWay => .way
  | longName => .system
  | unknownSound => .sound

end Misuse

/-- Why an operation gave no result. -/
inductive Fault where
  | rejected (cause : Rejection)
  | misuse (cause : Misuse)
  /-- A rule condition refused. -/
  | raised (category : Category) (text : String)

namespace Fault

/-- The category of a fault. -/
def category : Fault → Category
  | rejected cause => cause.category
  | misuse cause => cause.category
  | raised category _ => category

/-- The wording of a fault, whoever chose it. -/
def text : Fault → String
  | rejected cause => cause.message
  | misuse cause => cause.text
  | raised _ text => text

end Fault

end SoundGrid
