import SoundGrid.Arithmetic
import SoundGrid.Cell
import SoundGrid.Settings
import SoundGrid.Signal.View

/-!
# Rules

A rule pairs a condition with an action.  The rules of a list are tried in
order, and the action of the first one whose condition holds is applied to
the cell; when none holds the cell stays as it is.

A condition reads the cell, its live neighbours, the rule settings in force,
and a view of the signal whose entry at the cell's own place holds the sample
that the ripple has carried there.  It may draw from the random source, and it
may refuse.
-/

namespace SoundGrid

/--
What draws from a random source and may refuse; a refusal keeps what was drawn.
-/
abbrev Chance (Source Result : Type) := EStateM Fault Source Result

namespace Chance

/-- A result that needs no randomness. -/
def lift {Source Result : Type} : Except Fault Result → Chance Source Result
  | .ok result => pure result
  | .error fault => throw fault

/-- Draws a fraction. -/
def fraction {Source : Type} [RandomSource Source] :
    Chance Source Fraction := fun source =>
  let (drawn, rest) := RandomSource.fraction source
  .ok drawn rest

/-- Draws an index below a bound. -/
def below {Source : Type} [RandomSource Source]
    (bound : Nat) : Chance Source Nat := fun source =>
  let (drawn, rest) := RandomSource.below bound source
  .ok drawn rest

end Chance

/-- What a rule does to a cell. -/
inductive Action where
  | on
  | off
  | flip
  | scatter
  | decay
deriving DecidableEq

namespace Action

/-- All actions. -/
def all : List Action := [on, off, flip, scatter, decay]

/-- The name of an action. -/
def name : Action → String
  | on => "on"
  | off => "off"
  | flip => "flip"
  | scatter => "scatter"
  | decay => "decay"

/-- The action with a name. -/
def ofName (given : String) : Except Fault Action :=
  match all.find? fun action => action.name == given with
  | some action => .ok action
  | none => .error (.misuse .unknownAction)

end Action

/-- The fraction one half. -/
def Fraction.half : Fraction := ⟨4503599627370496, by decide⟩

/-- What a condition can read. -/
structure Reading (Real Value : Type) where
  cell : Cell Value
  heard : Heard Value
  neighbours : Int
  settings : RuleSettings Real

namespace Reading

variable {Real Value : Type}

/-- The sample at the cell's own place. -/
def own (reading : Reading Real Value) : Except Fault Value :=
  if reading.heard.size = 0 then
    .error (.misuse .divisionByZero)
  else
    reading.heard.get (reading.cell.index.fmod reading.heard.size)

end Reading

/-- A condition with the action to take when it holds. -/
structure Rule (Real Value Source : Type) where
  name : String
  action : Action
  condition : Reading Real Value → Chance Source Bool

namespace Rule

variable {Real Value Source : Type}

/-- The name of a rule, or that of its action when it has none. -/
def label (rule : Rule Real Value Source) : String :=
  if rule.name.isEmpty then rule.action.name else rule.name

/-- The first rule whose condition holds. -/
def firstMatch (reading : Reading Real Value) :
    List (Rule Real Value Source) →
      Chance Source (Option (Rule Real Value Source))
  | [] => pure none
  | rule :: rest => do
      if ← rule.condition reading then pure (some rule)
        else firstMatch reading rest

/-- The rules in a random order. -/
def shuffle [RandomSource Source] (rules : List (Rule Real Value Source))
    (source : Source) : List (Rule Real Value Source) × Source :=
  let (shuffled, rest) := Random.shuffle rules.toArray source
  (shuffled.toList, rest)

end Rule

namespace Action

variable {Real Value Source : Type} [Arithmetic Real Value]
  [RandomSource Source]

/-- The value and state of a cell after an action. -/
def apply (action : Action) (cell : Cell Value) (settings : RuleSettings Real) :
    Chance Source (Value × Bool) :=
  match action with
  | on => pure (cell.value, true)
  | off => pure (cell.value, false)
  | flip => pure (cell.value, !cell.state)
  | scatter => do
      let drawn ← Chance.fraction
      pure (cell.value, decide (Fraction.half < drawn))
  | decay => do
      let value ← Chance.lift
        (Arithmetic.mul cell.value (Arithmetic.setting settings.decayFactor))
      let faint ← Chance.lift
        (Arithmetic.less value (Arithmetic.setting settings.decayFloor))
      pure (value, if faint then false else cell.state)

end Action

namespace Rule

variable {Real Value Source : Type} [Arithmetic Real Value]
  [RandomSource Source]

/--
The value and state that the rules give a cell of a frame.  The signal is read
modulo `length`; `offset` is how far the ripple has come.
-/
def step (rules : List (Rule Real Value Source)) (cell : Cell Value)
    (signal : Array Value) (length offset neighbours : Int)
    (settings : RuleSettings Real) : Chance Source (Value × Bool) := do
  if length = 0 then
    throw (.misuse .divisionByZero)
  let rippled ← Chance.lift (pick signal ((cell.index + offset).fmod length))
  let view : SignalView Value := ⟨signal, cell.index.fmod length, rippled⟩
  match ← firstMatch ⟨cell, .view view, neighbours, settings⟩ rules with
  | none => pure (cell.value, cell.state)
  | some rule => rule.action.apply cell settings

end Rule

end SoundGrid
