import SoundGrid.Sample

/-!
# Sample formats

The formats in which a sequence of samples is kept: data as they were given,
or an array.  An array of data that were given without a format has the
narrowest format that holds them all.
-/

namespace SoundGrid

/-- Items, places and bytes are counted with numbers below this one. -/
def countLimit : Nat := Nat.pow 2 63

/-- The formats of a sequence of samples. -/
inductive SampleFormat where
  | plain
  | wide
  | single
  | byte
  /-- An array of integers. -/
  | integer
  /-- An array of truth values. -/
  | truth
  /-- An array of anything. -/
  | mixed
deriving DecidableEq

namespace SampleFormat

/-- The double that an array element is made from; nothing at all is a NaN. -/
def element : Datum → Except Fault Float
  | .null => .ok Number.Double.undefined
  | .list _ => .error (.misuse .malformedDouble)
  | given => given.toDouble

/--
The byte that is left of an integer, of which the higher digits are dropped.
-/
def lowByte (value : Int) : Except Fault Sample :=
  if value.natAbs < 9223372036854775808 then
    .ok (.byte (UInt8.ofNat (value % 256).toNat))
  else .error (.misuse .tooLarge)

/--
The byte that an array element is made from. An integer has to be in range.
-/
def byteElement : Datum → Except Fault Sample
  | .text given =>
      match given.string?.map Number.Literal.integer with
      | some (.ok value) => lowByte value
      | _ => .error (.misuse .malformedDouble)
  | .list _ => .error (.misuse .malformedDouble)
  | given =>
      match given.number? with
      | some (.int value) => (Sample.byteOfInt value).map Sample.byte
      | some number => do lowByte (← number.whole)
      | none => .error (.misuse .unconvertible)

/-- A datum as a sample of a format. -/
def sample (format : SampleFormat) (given : Datum) : Except Fault Sample :=
  match format with
  | plain | integer | truth | mixed => .ok (.plain given)
  | wide => (element given).map Sample.wide
  | single => (element given).map fun value =>
      .single (Number.Single.ofDouble value)
  | byte => byteElement given

/-- Data as samples of a format. -/
def samples (format : SampleFormat) : List Datum → Except Fault (List Sample)
  | [] => .ok []
  | given :: rest => do
      let first ← format.sample given
      let others ← format.samples rest
      pure (first :: others)

/-- The sample that stands for silence. -/
def silence : SampleFormat → Sample
  | plain | integer | mixed => .ofInt 0
  | truth => .plain (.bool false)
  | wide => .wide 0.0
  | single => .single (Number.Single.ofDouble 0.0)
  | byte => .byte 0

/-- The bytes that a sample of a format takes up in an array. -/
def bytes : SampleFormat → Nat
  | byte | truth => 1
  | single => 4
  | plain | wide | integer | mixed => 8

/-- The name of a format. -/
def name : SampleFormat → String
  | plain => "list"
  | wide => "float64"
  | single => "float32"
  | byte => "uint8"
  | integer => "int64"
  | truth => "bool"
  | mixed => "object"

/-- The format of an array that holds one sample. -/
def ofSample : Sample → SampleFormat
  | .wide _ => wide
  | .single _ => single
  | .byte _ => byte
  | .plain (.bool _) => truth
  | .plain (.int _) => integer
  | .plain (.double _) | .plain (.undefined _) => wide
  | .plain _ => mixed

/--
The format of an array that holds the samples of two arrays of plain data.
-/
def join : SampleFormat → SampleFormat → SampleFormat
  | truth, truth => truth
  | truth, integer | integer, truth | integer, integer => integer
  | mixed, _ | _, mixed => mixed
  | _, _ => wide

/--
The format of an array of some samples; without samples it is one of doubles.
-/
def ofSamples : List Sample → SampleFormat
  | [] => wide
  | [sample] => ofSample sample
  | sample :: rest => join (ofSample sample) (ofSamples rest)

/-- A sample of plain data in the format of an array. -/
def convert (format : SampleFormat) (sample : Sample) : Except Fault Sample :=
  match format with
  | wide => sample.toDouble.map Sample.wide
  | integer =>
      match sample.exactNumber? with
      | some (.int value) => .ok (.ofInt value)
      | _ => .ok sample
  | _ => .ok sample

end SampleFormat

namespace Sample

/-- The double that a sample stands for in an array of doubles. -/
def element : Sample → Except Fault Float
  | plain given => SampleFormat.element given
  | sample => sample.toDouble

/-- The doubles that samples stand for in an array of doubles. -/
def elements : List Sample → Except Fault (List Float)
  | [] => .ok []
  | sample :: rest => do
      let value ← sample.element
      let values ← elements rest
      pure (value :: values)

end Sample

end SoundGrid
