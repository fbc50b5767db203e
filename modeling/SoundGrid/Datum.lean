import SoundGrid.Number
import SoundGrid.Text

/-!
# Data

The values that settings, messages and rule conditions are made of: null,
truth values, integers of any size, doubles, texts, lists and records.
Integers and doubles are kept apart, because a message shows which of the two
was given, but they are compared by value.  A truth value counts as the
integer 0 or 1 wherever a number is asked for.

A NaN has no value to be compared by.  Among the items of a container one is
found again when it is the very same one, which its mark tells.
-/

namespace SoundGrid

/-- A value of a document. -/
inductive Datum where
  | null
  | bool (truth : Bool)
  | int (value : Int)
  | double (value : Float)
  /-- A NaN that can be told apart from others. -/
  | undefined (mark : Nat)
  | text (value : Text)
  | list (items : List Datum)
  | record (fields : List (Text × Datum))
deriving Inhabited

namespace Datum

/-- The number that a datum is; truth values are the integers 0 and 1. -/
def number? : Datum → Option Number
  | bool truth => some (.int truth.toInt)
  | int value => some (.int value)
  | double value => some (.double value)
  | undefined _ => some (.double Number.Double.undefined)
  | null | text _ | list _ | record _ => none

/-- A number as a datum. -/
def ofNumber : Number → Datum
  | .int value => .int value
  | .double value => .double value

/-- Whether a datum counts as true: zeros and what is empty are false. -/
def isTrue : Datum → Bool
  | null => false
  | bool truth => truth
  | int value => value != 0
  | double value => value != 0.0
  | undefined _ => true
  | text value => !value.isEmpty
  | list items => !items.isEmpty
  | record fields => !fields.isEmpty

/-- The value of a field of a record. -/
def lookup? (name : Text) : List (Text × Datum) → Option Datum
  | [] => none
  | (key, value) :: rest =>
      if key == name then some value else lookup? name rest

/-- Puts a field into a record; a field that exists keeps its place. -/
def insert (name : Text) (value : Datum) :
    List (Text × Datum) → List (Text × Datum)
  | [] => [(name, value)]
  | (key, old) :: rest =>
      if key == name then (key, value) :: rest
      else (key, old) :: insert name value rest

/-- The field of a datum that is a record. -/
def field? (datum : Datum) (name : Text) : Option Datum :=
  match datum with
  | record fields => lookup? name fields
  | _ => none

mutual

/--
Equality by value.  Numbers are equal across their kinds, lists when their
items match, records when each has a match for the other's fields, and a NaN
equals nothing.
-/
def same : Datum → Datum → Bool
  | null, other =>
      match other with
      | null => true
      | _ => false
  | bool truth, other => sameNumber (.int truth.toInt) other
  | int value, other => sameNumber (.int value) other
  | double value, other => sameNumber (.double value) other
  | undefined _, _ => false
  | text value, other =>
      match other with
      | text otherValue => value == otherValue
      | _ => false
  | list items, other =>
      match other with
      | list otherItems => sameItems items otherItems
      | _ => false
  | record fields, other =>
      match other with
      | record otherFields =>
          fields.length == otherFields.length && sameFields fields otherFields
      | _ => false

/-- Whether two parts of containers match: they are equal, or the same NaN. -/
def matching : Datum → Datum → Bool
  | undefined mark, other =>
      match other with
      | undefined otherMark => mark == otherMark
      | _ => false
  | item, other => same item other

/-- Whether a datum is a number of the given value. -/
def sameNumber (number : Number) (other : Datum) : Bool :=
  match other.number? with
  | some otherNumber => number.same otherNumber
  | none => false

/-- Whether the items of two lists match, one by one. -/
def sameItems : List Datum → List Datum → Bool
  | [], others => others.isEmpty
  | item :: rest, others =>
      match others with
      | [] => false
      | other :: otherRest => matching item other && sameItems rest otherRest

/-- Whether every field has a match in the other record. -/
def sameFields : List (Text × Datum) → List (Text × Datum) → Bool
  | [], _ => true
  | (key, value) :: rest, others =>
      match lookup? key others with
      | none => false
      | some other => matching value other && sameFields rest others

end

/-- Whether a datum can be a member of a set: lists and records cannot. -/
def isAtomic : Datum → Bool
  | list _ | record _ => false
  | _ => true

mutual

/--
Whether a datum comes before another: numbers by value, texts by code points,
lists at the first items that do not match.  `none` when the two have no order.
-/
def before? : Datum → Datum → Option Bool
  | text value, other =>
      match other with
      | text otherValue => some (value.before otherValue)
      | _ => none
  | list items, other =>
      match other with
      | list otherItems => beforeItems? items otherItems
      | _ => none
  | bool truth, other => numberBefore? (.int truth.toInt) other
  | int value, other => numberBefore? (.int value) other
  | double value, other => numberBefore? (.double value) other
  | undefined _, other => numberBefore? (.double Number.Double.undefined) other
  | null, _ => none
  | record _, _ => none

/-- Whether a number comes before another datum. -/
def numberBefore? (number : Number) (other : Datum) : Option Bool :=
  other.number?.map fun otherNumber => number.compare? otherNumber == some .lt

/--
The order of two lists: that of the first items that do not match, then of the
lengths.
-/
def beforeItems? : List Datum → List Datum → Option Bool
  | [], others => some !others.isEmpty
  | item :: rest, others =>
      match others with
      | [] => some false
      | other :: otherRest =>
          if matching item other then beforeItems? rest otherRest
          else before? item other

end

end Datum

end SoundGrid
