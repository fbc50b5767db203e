import SoundGrid.Fault
import SoundGrid.Number.Literal
import SoundGrid.Text.Character

/-!
# Mapping levels

The seven ways in which a grid turns samples into cell values and states.  A
level has a number, a key that names its parameter set, and a label.  It can
be given by any number equal to its own, by its key in any letter case, or by
a text of digits.
-/

namespace SoundGrid

/-- The mapping levels. -/
inductive Level where
  | direct
  | opacity
  | smoothed
  | probabilistic
  | entropy
  | rules
  | neighborhood
deriving DecidableEq, Inhabited

namespace Level

/-- The levels by ascending number. -/
def all : List Level :=
  [direct, opacity, smoothed, probabilistic, entropy, rules, neighborhood]

theorem mem_all (level : Level) : level ∈ all := by
  cases level <;> decide

/-- The number of a level. -/
def number : Level → Nat
  | direct => 0
  | opacity => 1
  | smoothed => 2
  | probabilistic => 3
  | entropy => 4
  | rules => 5
  | neighborhood => 6

theorem number_injective {first second : Level}
    (same : first.number = second.number) : first = second := by
  cases first <;> cases second <;> first | rfl | cases same

/-- The name of a level and of its parameter set. -/
def key : Level → String
  | direct => "direct"
  | opacity => "opacity"
  | smoothed => "smoothed"
  | probabilistic => "probabilistic"
  | entropy => "entropy"
  | rules => "rules"
  | neighborhood => "neighborhood"

/-- The name in upper case. -/
def name : Level → String
  | direct => "DIRECT"
  | opacity => "OPACITY"
  | smoothed => "SMOOTHED"
  | probabilistic => "PROBABILISTIC"
  | entropy => "ENTROPY"
  | rules => "RULES"
  | neighborhood => "NEIGHBORHOOD"

/-- The label that people see. -/
def label : Level → String
  | direct => "Direct Threshold"
  | opacity => "Opacity"
  | smoothed => "Smoothed Threshold"
  | probabilistic => "Probabilistic"
  | entropy => "Entropy Scatter"
  | rules => "Expression Grammar"
  | neighborhood => "Neighborhood Gate"

/-- Whether the live neighbours of a cell are counted for the level. -/
def readsNeighbours : Level → Bool
  | rules | neighborhood => true
  | _ => false

/-- The level with a number. -/
def ofNumber? (given : Number) : Option Level :=
  all.find? fun level => given.same (.int level.number)

/-- The level with a key. -/
def ofKey? (key : String) : Option Level :=
  all.find? fun level => level.key == key

/-- The level with a name, in any letter case. -/
def ofName? (name : String) : Option Level :=
  all.find? fun level => level.name == Text.upper name

/-- The level that a number asks for. -/
def ofNumber (given : Datum) : Except Fault Level :=
  match given.number?.bind ofNumber? with
  | some level => .ok level
  | none => .error (.rejected (.levelRange given))

/-- The level that a string asks for. -/
def ofText (given : String) : Except Fault Level :=
  match ofName? given with
  | some level => .ok level
  | none =>
      if given.isEmpty || !given.all Text.isDigit then
        .error (.rejected (.unknownLevel given (all.map key)))
      else
        match Number.Literal.integer given with
        | .error .malformed => .error (.misuse (.malformedInteger given))
        | .error (.tooLong digits) => .error (.misuse (.integerTooLong digits))
        | .ok value => ofNumber (.int value)

/-- The level that a datum asks for. -/
def ofDatum : Datum → Except Fault Level
  | .text given =>
      match given.string? with
      | some string => ofText string
      | none => .error (.rejected (.unknownLevel given (all.map key)))
  | given => ofNumber given

end Level

end SoundGrid
