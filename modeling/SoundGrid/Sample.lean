import SoundGrid.Arithmetic
import SoundGrid.Number
import SoundGrid.Settings.Accept

/-!
# Samples

A sample is a datum as it was given, or an element of an array of doubles,
singles or bytes.  When two formats meet, the operation is done in one of them:

* two integers are exact;
* an integer or a plain double meets an array element in the element's format,
  a fraction turning bytes into doubles;
* of two array formats the wider one is taken;
* a plain integer meets a plain double as a double, but is compared with it
  exactly.

What has no number has no arithmetic.  Texts and lists can still be compared
among themselves.  Where an array element is compared with a list, the list is
taken for an array, and the answer is one only if that has one item.
-/

namespace SoundGrid

open Number

/-- A sample or a cell value. -/
inductive Sample where
  /-- A datum as it was given. -/
  | plain (given : Datum)
  /-- An element of an array of doubles. -/
  | wide (value : Float)
  /-- An element of an array of singles. -/
  | single (value : Float32)
  /-- An element of an array of bytes. -/
  | byte (value : UInt8)
deriving Inhabited

namespace Sample

/-- A plain double. -/
abbrev ofDouble (value : Float) : Sample :=
  .plain (.double value)

/-- A plain integer. -/
abbrev ofInt (value : Int) : Sample :=
  .plain (.int value)

/-- The double with the value of a byte. -/
def doubleOfByte (value : UInt8) : Float :=
  value.toFloat

/-- The single with the value of a byte. -/
def singleOfByte (value : UInt8) : Float32 :=
  Single.ofDouble value.toFloat

/-- An integer as a byte. -/
def byteOfInt (value : Int) : Except Fault UInt8 :=
  if 0 ≤ value ∧ value < 256 then .ok (UInt8.ofNat value.toNat)
  else .error (.misuse .tooLarge)

/-- Two operands in a common format. -/
inductive Pair where
  | integers (first second : Int)
  | doubles (first second : Float)
  | wides (first second : Float)
  | singles (first second : Float32)
  | bytes (first second : UInt8)

/-- A plain number in the format of an array element that it meets. -/
def inFormatOf (element : Sample) (number : Number) : Except Fault Sample :=
  match element, number with
  | plain _, _ => .error (.misuse .operands)
  | wide _, .double value => .ok (wide value)
  | wide _, .int value => (doubleOfInt value).map wide
  | single _, .double value => .ok (single (Single.ofDouble value))
  | single _, .int value =>
      (doubleOfInt value).map fun value => single (Single.ofDouble value)
  | byte _, .double value => .ok (wide value)
  | byte _, .int value => (byteOfInt value).map byte

/-- Two array elements in the wider of their formats. -/
def widen : Sample → Sample → Except Fault Pair
  | wide first, wide second => .ok (.wides first second)
  | wide first, single second => .ok (.wides first (Single.toDouble second))
  | wide first, byte second => .ok (.wides first (doubleOfByte second))
  | single first, wide second => .ok (.wides (Single.toDouble first) second)
  | single first, single second => .ok (.singles first second)
  | single first, byte second => .ok (.singles first (singleOfByte second))
  | byte first, wide second => .ok (.wides (doubleOfByte first) second)
  | byte first, single second => .ok (.singles (singleOfByte first) second)
  | byte first, byte second => .ok (.bytes first second)
  | plain _, _ | _, plain _ => .error (.misuse .operands)

/-- Two plain numbers in a common format. -/
def joinNumbers (first second : Number) : Except Fault Pair := do
  match ← Number.align first second with
  | .integers first second => pure (.integers first second)
  | .doubles first second => pure (.doubles first second)

/--
A datum that has to be a number, in the format of an array element that it
meets.
-/
def meetNumber (element : Sample) (given : Datum) : Except Fault Sample :=
  match given with
  | .text _ => .error (.misuse .elementOperands)
  | _ =>
      match given.number? with
      | some number => inFormatOf element number
      | none => .error (.misuse .operands)

/-- Brings two operands into a common format. -/
def align (first second : Sample) : Except Fault Pair :=
  match first, second with
  | plain firstGiven, plain secondGiven =>
      match firstGiven.number?, secondGiven.number? with
      | some firstNumber, some secondNumber =>
          joinNumbers firstNumber secondNumber
      | _, _ => .error (.misuse .operands)
  | plain given, element => do widen (← meetNumber element given) element
  | element, plain given => do widen element (← meetNumber element given)
  | _, _ => widen first second

/-- The operations that have a result in every format. -/
structure Operation where
  integers : Int → Int → Int
  doubles : Float → Float → Float
  singles : Float32 → Float32 → Float32
  bytes : UInt8 → UInt8 → UInt8

/-- Does an operation in the common format of its operands. -/
def apply (operation : Operation)
    (first second : Sample) : Except Fault Sample := do
  match ← align first second with
  | .integers first second => pure (ofInt (operation.integers first second))
  | .doubles first second => pure (ofDouble (operation.doubles first second))
  | .wides first second => pure (wide (operation.doubles first second))
  | .singles first second => pure (single (operation.singles first second))
  | .bytes first second => pure (byte (operation.bytes first second))

/-- The sum. -/
def add : Sample → Sample → Except Fault Sample :=
  apply ⟨(· + ·), (· + ·), (· + ·), (· + ·)⟩

/-- The difference. -/
def sub : Sample → Sample → Except Fault Sample :=
  apply ⟨(· - ·), (· - ·), (· - ·), (· - ·)⟩

/-- The product. -/
def mul : Sample → Sample → Except Fault Sample :=
  apply ⟨(· * ·), (· * ·), (· * ·), (· * ·)⟩

/-- The exact number that an integer or a byte is compared by. -/
def exactNumber? : Sample → Option Number
  | plain given => given.number?
  | byte value => some (.int value.toNat)
  | wide _ | single _ => none

/--
The order of two samples in their common format; `none` when one is a NaN.
-/
def compareAligned (first second : Sample) :
    Except Fault (Option Ordering) := do
  match ← align first second with
  | .integers first second => pure (some (compare first second))
  | .doubles first second => pure (first.toModel.compare second.toModel)
  | .wides first second => pure (first.toModel.compare second.toModel)
  | .singles first second => pure (first.toModel.compare second.toModel)
  | .bytes first second => pure (some (compare first second))

/-- The order of two samples that are numbers. -/
def compareNumbers (first second : Sample) : Except Fault (Option Ordering) :=
  match first.exactNumber?, second.exactNumber? with
  | some firstNumber, some secondNumber =>
      .ok (firstNumber.compare? secondNumber)
  | _, _ => compareAligned first second

/-- The only item of a list, also of one inside other lists with one item. -/
def soleItem? : Datum → Option Datum
  | .list [item] => soleItem? item
  | .list _ => none
  | given => some given

/-- The item of an array that is made of a list with one item. -/
def arrayItem (element : Sample) (item : Datum) : Sample :=
  match element, item with
  | byte _, _ => plain item
  | _, .int value => wide (Double.ofInt value)
  | _, .double value => wide value
  | _, _ => plain item

/-- A datum that an array element is compared with. -/
def meet (element : Sample) (given : Datum) : Except Fault Sample :=
  match given with
  | .list _ =>
      match soleItem? given with
      | some item => .ok (arrayItem element item)
      | none => .error (.misuse .manyAnswers)
  | _ => .ok (plain given)

/-- The order of two samples of which one at least is an array element. -/
def compareElements (first second : Sample) : Except Fault (Option Ordering) :=
  match first, second with
  | plain given, element => do compareNumbers (← meet element given) element
  | element, plain given => do compareNumbers element (← meet element given)
  | _, _ => compareNumbers first second

/-- Whether the first sample is below the second. -/
def less (first second : Sample) : Except Fault Bool :=
  match first, second with
  | plain firstGiven, plain secondGiven =>
      match firstGiven.before? secondGiven with
      | some before => .ok before
      | none => .error (.misuse .operands)
  | _, _ => do
      let order ← compareElements first second
      pure (order == some .lt)

/--
Whether the first sample is below the second or equal to it.  Lists compare as
`less` compares them when they differ.
-/
def lessOrSame (first second : Sample) : Except Fault Bool :=
  match first, second with
  | plain firstGiven, plain secondGiven =>
      match firstGiven.before? secondGiven with
      | some before => .ok (before || firstGiven.same secondGiven)
      | none => .error (.misuse .operands)
  | _, _ => do
      let order ← compareElements first second
      pure (order == some .lt || order == some .eq)

/-- Whether a sample is a number, or an array element. -/
def isNumber : Sample → Bool
  | plain given => given.number?.isSome
  | _ => true

/--
Whether an array element is equal to a datum; one that is no number never is.
-/
def sameElement (element : Sample) (given : Datum) : Except Fault Bool := do
  let met ← meet element given
  if met.isNumber then
    pure ((← compareNumbers element met) == some .eq)
  else
    pure false

/--
Whether two samples are equal.  This refuses only integers that are too large,
and lists where an array element is compared.
-/
def same (first second : Sample) : Except Fault Bool :=
  match first, second with
  | plain firstGiven, plain secondGiven => .ok (firstGiven.same secondGiven)
  | plain given, element => sameElement element given
  | element, plain given => sameElement element given
  | _, _ => do
      let order ← compareNumbers first second
      pure (order == some .eq)

/-- Whether a sample counts as true. -/
def isTrue : Sample → Bool
  | plain given => given.isTrue
  | wide value => value != 0.0
  | single value => Single.toDouble value != 0.0
  | byte value => value != 0

/-- The double that a sample converts to. -/
def toDouble : Sample → Except Fault Float
  | plain given => given.toDouble
  | wide value => .ok value
  | single value => .ok (Single.toDouble value)
  | byte value => .ok (doubleOfByte value)

/-- The double with the value of a random fraction. -/
def ofFraction (value : Fraction) : Float :=
  .ofModel (.pack (.normalize .binary64 (value.val : Int) (-53) .positive))

instance : Arithmetic Float Sample where
  zero := ofDouble 0.0
  setting := ofDouble
  fraction value := ofDouble (ofFraction value)
  count := ofInt
  add := add
  sub := sub
  mul := mul
  less := less
  store value := value.toDouble.map ofDouble

end Sample

end SoundGrid
